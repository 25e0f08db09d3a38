import Callwise.Source.Scanner

/-!
# Rows of character names

A row names consecutive characters whose names begin alike. A table of rows is a text in which each
row gives the first code point in hexadecimal, the common beginning of the names and their endings:
`30:DIGIT :ZERO,ONE,TWO;` names the characters from U+0030 to U+0032. A row without a code point
goes on where the row before it ends, and `A008..010` stands for `A008,A009,A010`. Line breaks have
no meaning.

Names are in capitals, so marks and small letters are free. A mark, or a small letter with one more
character, abbreviates what names often have in common, or endings that often follow each other. The
digits and capitals of a row stand for themselves unless a small letter is in front.
-/

namespace Callwise.CharName

/-- Consecutive characters, their names cut into a common stem and an ending for each. -/
structure Row where
  first : Nat
  stem : List Char
  endings : List (List Char)

/-- The character of the row with this name. -/
def Row.find? (row : Row) (name : List Char) : Option Char := do
  let ending ← row.stem.isPrefixOf? name
  let index ← row.endings.idxOf? ending
  pure (Char.ofNat (row.first + index))

/-- The parts of a text between the separators. -/
def parts (separator : Char) (text : List Char) : List (List Char) :=
  text.foldr
    (fun char parts =>
      if char == separator then [] :: parts
      else (char :: parts.headD []) :: parts.tail)
    [[]]

/-- The marks that are abbreviations. -/
def marks : List Char := "!$%&()*+<=>?[]^_|~".toList

/-- The place of a character behind a small letter: small letters, capitals, digits, marks. -/
def place (char : Char) : Nat :=
  if char.isLower then char.toNat - 'a'.toNat
  else if char.isUpper then 26 + (char.toNat - 'A'.toNat)
  else if char.isDigit then 52 + (char.toNat - '0'.toNat)
  else 62 + marks.idxOf char

/-- Write abbreviations out, given what they stand for: the marks, and then `aa`, `ab` and so on. -/
def expand (known : Array (List Char)) : List Char → List Char
  | [] => []
  | [last] => if marks.contains last then known.getD (marks.idxOf last) [] else [last]
  | first :: second :: rest =>
    if marks.contains first then known.getD (marks.idxOf first) [] ++ expand known (second :: rest)
    else if first.isLower then
      known.getD (marks.length + (62 + marks.length) * place first + place second) []
        ++ expand known rest
    else first :: expand known (second :: rest)

/-- What is abbreviated. Each part may use the abbreviations of those before it. -/
def abbreviated : Array (List Char) :=
  (parts ';' ("
AL ;AN,;ED ;EE,;EN,;ER,;HA,;ON,;ING ; AND ;LEFT ; SIGN,; WITH ;BLACK ;RIGHT ;WHITE ;DOUBLE ;LETTE
R ; :S; SE; SH; ST;,12;,NG;,SA;,SE;,SH;,SI;,SS;,ST;,SU;-2,;001;002;00:;0::;1..;113;1EE;2..;3..;356;4
56;6..;7,1;7,2;7..;78,;8,1;8,2;::S;:A,;A S;A,A;A,B;A,C;A,D;A,F;A,G;A,K;A,N;A,O;A,P;A,S;A,T;A,V;A,Z;A
A,;AB,;AD,;AE,;AG,;AH,;AI,;AL,;ALI;ALL;AM,;AN ;ANC;AND;ANG;AP,;AR ;AR,;ARA;ARD;ARG;ARI;ASH;AT ;AT,;A
TH;AU,;BA,;BAN;BAR;BAS;BEL;BOW;BRE;CAR;CE,;CH,;CHA;CHE;CK,;COM;CON;CRE;CUR;DA,;DDA;DE,;DEL;DER;DI,;D
IS;DO,;DOT;E :;E,B;E,C;E,F;E,G;E,M;E,N;E,P;E,S;E,Z;EAR;ED,;EH,;EL,;EM,;EN ;END;ENG;ENT;EP,;ER ;ES,;E
SH;ET ;ET,;F::;FAC;FLA;FOR;GA,;GHE;GRA;HAL;HAM;HAR;HE,;HER;HI,;HO,;HOR;HU,;I,N;IC ;IE,;IGH;IGN;II,;I
N ;IN,;IND;ING;IS ;IT ;IT,;JA,;JE,;KA,;KAP;KAR;KE,;KHA;KI,;KO,;KU,;LA,;LAM;LAN;LE ;LE,;LI,;LIC;LIN;L
IS;LO,;LOW;LU,;LY ;M,N;MA ;MA,;MAL;MAN;MAR;MAS;ME,;MEN;MIL;MIN;MON;MUS;NA,;NGG;NIN;NOT;NUN;O,B;O,N;O
,P;O,S;O,Z;OE,;OF ;OM,;ON ;ONG;OO,;OP,;OR ;OT,;OU,;OUN;OUR;OUT;OX,;P,N;PA,;PAR;PEN;PER;PI,;PLA;PRO;Q
A,;R,S;RA ;RA,;RAN;RAP;RE,;RES;RI,;RIC;RIN;RIS;RO,;RU,;SA,;SS ;STI;T,N;T,S;TA ;TA,;TAN;TE ;TE,;TEN;T
ER;TH ;TH,;THA;THE;TI,;TIC;TIL;TO ;TO,;TON;TOP;TOR;TRA;TRE;TRI;TRO;TS ;TS,;TU,;TUR;TWO;TY ;U,N;U,U;U
D,;UE,;UM ;UM,;UN,;UNG;UP ;UP,;UR,;US ;US,;UT,;UX,;VA,;VE ;VE,;VER;WA,;WE,;WI,;WO,;X,N;YA,;YAN;YE,;Y
I,;YO,;YR,;YT,;YU,;YX,; bm;acA;acE;acI;acO; SUB; WIN;,134;,234;,bd;,bh;,bk;,NOR;aiA;aiE;aiI;aiO;ai
U;ajX;amB;-as;010,;7ae;7,34;7aE;7aF;8ae;:aK;aMD;Aai;AGE ;AGE,;Ab<;ALAY;ALEF;a6A;a8:;a! ;a!,;a$ ;a$,;
ANO,;ANT,;ANTI;Ac(;ARC ;ARC,;ARRI;a= ;a=,;Adg;Adj;BaK;BACK;BaZ;Ba(;BOLD;BOX ;Bc3;CIRC;CLOS;CRIP;D05
0;DAP-;DASI;DIM ;bv ;DcY;bvS;DOWN;E,I,;Eaf;E,O,;bM ;bN,;bO ;bO,;bOI;EQUI;bS,;Edl;EYES;Fa[;FcX;bYM;Fc
1;GaO;HaX;HAH ;b2F;Ha!;HEAD;HbG;HEH ;HbI;Hb(;Hb>;HOOK;b9N;I,U,;Ia8;b%:;IDE ;IbP;IbU;IEX,;IGI,;b<P;IN
E,;b>,;IOTA;ISH ;ISH,;JOIN;KaP;KAF,;KEY,;LAK-;ch ;La7;La+;LEAF;LEFT;LbR;LESS;LITT;Lcg;LOCK;LOOP;cq ;
M012;MAEM;MAI ;cyK;MID ;NaQ;NEO,;NbZ;cJ ;cJE;NdM;OFT ;OLD ;ONE ;ONE,;cU,;Oc7;c0D;OdR;c2 ;OdY;PEAK;PL
US;PUSH;QAF,;QUAD;QUAR;RECT;REPE;c=T;Rb>;ROCK;SIOS;TAI ;TAIL;Ta(;TEEN;TELE;TbL;TbQ;djN;dn ;Tb6;THIR;
THO ;Tb8;THRE;dpK;TION;Tck;du ;Tc?;Tc|;Tde;dDN;dE ;Td2;Ua0;ULL ;dN,;UcW;Uc3;URX,;USH,;V020;Va<;VIRA;
WaX;WAW,;Wb*;WcV;YEH ;YbI;YRX,;Z015;Z016; CLEF; Sb); Sb>;adAR; Sdw; WITH;ae34;,CIM ;,CdO;,SaT;ahM
I;ed ;,SPIR;alAR;,Sdw;am,S;-ARY ;7el;:LAO ;:fV;A,aX;aLA,;A,bn;A,cv;A,c5;A,c|;et ;ALcs;ALPHA;ANbe;ARR
OW;a=2,;Agd;Ba6,;Ba6O;a|B ;BEcq;baT,;Be9;BLACK;BfG;BLUE ;BfV;BOOK,;bdON;CbOR;CHRON;CHdZ;CIEUC;COLO
N;bkTA;CROSS;bmL,;DAGES;DEGRE;DIGAM;DIREC;Dfr;DIVID;e1,;DOWED;e2 ;e2,;E,a3;E,&;EPSIL;EQUAL;bS2,;E
Sb?;EVbL;bWE ;FAbe;FIcl;FILL,;FINAL;FIc<;FIST ;FIdW;FIdX;FLa1;FLa>;FLOOR;e+ ;e< ;FRAME;FROM ;FROWN;G
LASS;GREEK;GUNU,;HAIR,;e[ ;Hex;HEAVY;HEEL ;HIEUH;fa ;fc ;fc,;HUMP ;I,b*;I,b|;IC!;IEdN;b(T ;b(T,;b=E
X;b=IC;INdj;fp,;JEEM ;KASRA;Kfo;KISIM;KObU;LATIN;fB,;fB-;Lb(T;cnE ;Lfn;LIPS,;LcU ;MAbo;Ma6,;Ma!A;f
M ;fM,;MAde;MEEM ;Me9;MICRO;MIEUM;cDUS;MOcT;MULTI;NAd4;NESS,;NIEUN;cIE ;NOcT;fS,;NUMER;O,cV;cNE,;f
Z ;f3 ;OXIA,;Pa5 ;PIEUP;f5 ;POINT;POVOD;PRAM-;QOPH,;f8 ;QUEEZ;QUOTA;RIEUL;Rb(T;Rfo;ROOK,;RUPEE;SEcU;
SIFIS;Sb) ;SIcT;f),;f)-;SSa$;T cR;TaUH;f+,;TAK4,;TE(;diU,;TETAR;TEdw;THIEU;THUMB;TIck;TIMES;gd ;TI+;
TfW;TfX;dtE-;Tc*S;TSHEG;TWbO;TYPE ;dHU,;UAEQ,;UAbU;ULa&;UNbr;dYY ;VOWEL;WAdW;WAVY ;WIdk;YEc_;Z
Ec^; ir;acaZ; iK; SMa6; Sf9; SdzK; SUb]; WAdX; WHITE; WORD ;d>56;d?56;,hC;,ik;ahVEN;,iK;,iN;,iO;amc
8;ef3,;ef4,;ef6,;ef7,;-blE ;-iM;8gL;:Cb3 ;:Ga)Y;:KAITH;:h(;:MIAO ;:ORIYA;:TIRHU;aL*;g1N;aQd4;ABOdW;A
BOdX;ACCbO;ACUdg;ACUdh;ALEPH,;g7,;AMc8S;a!HI ;a$cj;a$ck;g9 ;g9,;Ai1;Ai2;BEGb+;g),;g=,;BOa*,;BOTTO
M;bcdW;bcdX;bhc~;eSLE;ha,;bjcu;bjcv;bjPLE;CORNER;hc ;bmcs;bmdW;CYRILL;DAMcu;DIGb[;DIGc+;bvTED;DOUBL
E;bGdl;Eh3;Eb(TH;ELLIPS;EMPdF;FARSI ;FIFdF;FIFTY,;hz ;Fb>ER;FIRST ;b1dX;GREbL;b3ZA ;e_T ;e_T,;hS ;hS
,;hU,;fbE ;HYPHEN;I=;I ROC,;IMep;h5 ;h5,;INESE ;IZHITS;fsED;b|bZ;Kb3TI;KIYEOK;KRYZHE;LAGa&;fzE ;fzE
,;LETdj;Lh3;Lh4;LIMBU ;cqbQ;cvcG;MACRON;h_:;MCHU C;MEDIUM;MIDDLE;id,;Mc0TA;MOUdk;MOUdl;ij,;ij-;NO
Rdk;NUKde;NUMBER;O,fI;OCfG;OGONEK;Ob1M ;OMEbZ;ORGcT;f3LA;PAHLAV;PEECH ;c8SON;PIEbe;iu,;iu-;c!CE ;PRE
CED;PRIcA;PSIcl;f9E ;f9E,;QUEbL;QUE(;Ra$E ;iD,;iD-;Rh4;iE-;ROTUND;Rf0 ;RTAGS ;RTAGS,;SbTOF;Sb9T ;SMa
6 ;f|D ;f|TY;gbE ;THR&;gbE-;iY ;TIKEUT;dqDE ;dqbp;i0 ;dtOS,;dyPLE;dzMIK;UNIcT;UPPbQ;UPWa*;guA,;VE
Db%;VISa+;i* ;d4c);d5cG;YEOc[;YMBOL ;ZAPYAT; :iK; :i=; j1; hc,; SASAK,;d(FT,;i^:; SLeI; k^;i_,; SP
Abe; SYMBOL; lg;ji ;,k];ajMPLI;,SLOa8;,k^;,SPIbr;-PIfF;-VAS,A4;00as00;:a)BIC;:hN ;:ke;:KAYAH ;:KHMb
Q;:LEPbg;:k^;:SYRIAC;:TAcC ;:TELUGU;A iv;Ajj;ABbcVI;AIRPci;ALTIc<;eCcE;ANUSVAR;APOSdz;a)Bb%;ASTEc];
Als;g&T ;a|R%;BESfh;BIG YUS;BISHcW;jX ;BRACKET;BRIDGE ;BROKbL;BUBBck;BULLbU;Ca!c(;g^E ;g^E,;CHIEUC
H;j1 ;j1,;eT%;bkfs;hbIN;j6 ;j6,;bmRENC;heH,;Da=%;DESCbM;DIAcED;j%:;j( ;j),;DRACHMA;DRAG+;E iv;hoO,;e
6cR;e!a4;EXCchA;FOLD);FONIAS,;FTHOc(;*NcG;Ha$UL ;fbbH;HUNDRED;INSIbp;b^J*;ft*;KASKa4;kt,;KLYUbh;KNh
3;KNh4;KUSHU2,;chEDH,;ciT%;LE=;cnEa&;fEcj;LONSdL;LOZHITI;cufP;Ma9HU ;cyTYRI;MEDI!;kH ;kH,;kI ;cC<;cC
LION;NASa5Z;NEUdwL;kR ;O,hV;OLIDdS;fWSIX;iqE,;ORKHcT;c6a6E;Pa)dv;c6bOH;c7CIL,;PHIEUPH;POVYSHE;f9%;f
9dj;RAIS%;RAMMOS ;c]<;SeUT ;SHAP%;TaU*;TEDgo;f=dk;dkEAST;dkWEST;dlfW;THROUGH;ld,;dreO;li ;gj%;TWELFT
H;TWELdW;i8Y-;Ui[;U iv;UDAWADI;UP=;dOe2;dOTACK;gvcv;VId5I,;VOIC%;Wa9HO ;WOcxS ;YaOROM;ZIGZA
G ;aah]; mb; OTTAVA ;abCeB;abCgd;gHck; Sk9; Sk!;i~E ;i~E,;lH ;lH,;,l_;,ma;agYISI ;ahbkD ;aib<TA;,
Sb>cj;,Sk9;-00..06,;-k|,;2lI;:BRAHMI ;:GURMUKH;:mA;:HEbcW ;:KANNADA;:Md5cy;:NABATAE;:SAMa<T;:Sb>cj;:
SOYOMBO;:Sk9;:TIBEdf;A jF;A MURbn;AFc?a8;jJBE;ALf]AT;ARbgb%;ARKTIKO ;BETWEbL;BETWE(;l=,;bca[Y ;CAPI
T!;CeGbQ;CEDIfF;eSL%;Cc=CbO;DIAGONAL;ml,;j&H,;DIVISION;bvfD ;e2Wa*;e3O,U,;EagDb5;%hw;EM DeI;EN[;hr T
O;Fa6<;FLOUc]H;bYWa*,;GLOTT!;Gc*dm ;b4POcT;b4PO+;HITT<;HOLD<;mC ;IlI;INITI!;INSi&;INTEb1L;INdYSE ;b~
YEc0;KATAKANA;KHIEUKH,;KIRGHIZ ;fBWa*;LbNdnN;LOCg$;LOGh1;LOZbNE,;M CUBbH;MEASURE ;cFh1;NEIf_ ;cJC
H%;fSe^;m4:;OBLIQUE ;cTh);fWe[;Oc8Adv;m9A;ORNAMbO;f3eO;kYY,;iw%;POSIgd;c$DUCT,;m+ ;RELg$;REdYSE ;REd
YSED;ROTAT%;ROTg$;Rf0%;RYUKOVAY;TALENdB;THOUSa!;gc FIG;TOWa*S ;dya$LE;U2 iv;UPSIL+;lmS ;guANT ;dYdpA
L;VETLAd4;lpA ;lpA,;VOCALb%;VOLAPUK ;YENISEI ;YESh2;YIG MGO ; n); ~:; S ku;abGib;abMIeS;acbSIG,;i|b
H;adeKS,;d<UNb];,n);,CHITUEUM;-PANiM;-iXdl;:l!:;:BbNa5 ;:n<;:COPTfg;:j!IC;:Db>Ba>;:GUJa)TI;:KIRa>RA;
:cxIbgE;nX ;:Na!INAG;:SIDDb3 ;:SINb2A ;:Sm*;n3 ;:VITHKUQI;g3P*;AgO*;ACKNOWLED;AIN[;a5 Ga5 ;ANUDAgi;l
8A ;l8A,;ARbgI+;jPdr;g9e^;a=i[;l$K,;ATTACH%;AVAb1*;BEH[;BOX[;Ca!RABIN;DAD[;DAL[;DIAEc=IS;n> ;DIASTOL
I ;DOES fR;e2=;hmTACK;bJbK(;ELECgg ;j=IS,;ENVELOPE,;od,;Ec(NAME ;ETA[;EZH[;e)ATa8;FEH[;FLORETdh;FRA
Ci1;hKeO;FgnSdu;HAH[;Ha)Cf[;e^ fM;kfdO;HEH[;HIRAGANA ;IDEOGc+H;IGI hO;h6Adv;INFINITY,;<hw;INdYT%;IOT
IFI%;JAPANESE ;KAF[;KAMEYTSA ;ch[;fD-dmN;LIGAdDE ;fGWISE ;LOGkV;h?LEG,;h?TIP ;fIh=;cvMI,MU,;MEASUR%;
MOBIcjPH;MODIFIbQ;MOVEib;MOVEMbO-;igPck;NEGATIdW;cRCLUBS,;cRSPADES;OJIBWAY N;cTk*;ONbj<;oM,;OPPOS<;O
RIGIN!;oO,;OS ICHOS,;c2cn%;f3h=;Pa)Gc+H;c!SdpS,;Pcmg$;iw<;k6ES ;QAF[;f8c*T ;f8ReB;RAM e*:;RECYCLb>;o
X ;iEWa*;SET[;TAH[;TEH[;dlGIMbJ;dnSPff;o3,;lcSID;i1fM;i3eO;gfhQ;o6 ;o6,;ghTS*;TUAREG YA;gke1 ;gkf|D;
UBLIMeJ;UMlI;i(eO;o$ ;VINE fA;Wa6PciE;Y,MECHIK ;lrcg;gAa|RE;YEH[; hc<;abm$;gJh3;gJh4; SYLLABcj;[e
0; Wc[KLbH;agD[;agMEKH,AY;gSiP;amCCEEDS ;:BALko;:JAVANESE ;:ou ;:Kb4OSHTH;:f*Tb3 ;:ZNAcBNY ;A MAHA
Pc*;ABccSff;et[;n8E ;ewkC;ewll;pF ;pF,;AS-SALAa7;AqS;eMSLeI;g)=;l_dr;eSUMFLEX;bjBIN<;mdbH;bkSONAN
T ;eXA=;pP,;DIALECT-P ;DIAdtIKI ;eZjF;eZjU;n_S ;n_S,;ELEMe8OF;ENeT<;ENeTUc<;mtTEX;EXdiSI+;EXdw-fI;E
XdxMEcs;bWE[;j^e+;hBR<;bXTdi%;hGPciE;FLY<SAU;p8,;GAN2 iU;hQg<;Ha*?;HIEROGLYPH;b9IZONTAL;b9T-TWIG-;
Io?;INSERT a>;h9i=;JUdaFI%;Kp9;>hQ;oxS ;oxS,;p| ;p|,;mQYUS;LUnR;iai=;mZdP;cDO TIcj;NEPOSTOd5;ili=;f
SadEM ;cRe_dB;fVCOPdp;fVNUBIAN;fVTAcC ;cTCHROcu;OUm| ;PbOAGRa7;PEc]POcB;f5i^;PSILI=;f8RUPcj;R,o);R
EdzFLEX ;RUDIcBdd;T,U,V,W,X,;TABULg$;f>PHfW;f>PHfX;lgKdQ;i0d),;qS,;i3h|;gjSiZ;UKRAINff;USHlI;dYTEX c
R;WESTjr; SANS-SERIF;q%,;[hX;[SERIF;gKi~;ahoc;:ro;:DEVANAGa<;:MesAfx;:McUOLff;:SUNDANESE ;n8b>;A
No?;a8oI;jNi=;l9Pb5;g9[;]Sf<;bhCK h|;CKbQBOa* ;bjPc=S%;hrSgG;EXdw-hV;rH,;hBkm;GHpy;GORAZDO NIZ;rO
,;keg(;rR ;rR,;ICo?;h2,g~;kmiY;Le!Ci&;kzg(;kAhm;kChQ;kC>;mWe+;mZe0;fQCjB;NIKOLSBURG ;NORm| ;NORm~ ;c
RBAMBOOS,;OFlyS,;OMEGA[;iqkM;iujl;PUNCTUg$;f9E[;R[FISH;RAC<Ca(;REGULdRcR;^hQ;qKS ;R<jF;S SQUIGGcj;S
IcwdNUN ;T(i8Y,;k~e1 ;qRE,;gc fMS,;lgiS;dya$i&;dzEZENff;dE-e^%;Uc8m?;llhQ;ll>;i)ke;i*i^;WAReyCITI;WO
ODSjr;Z cJjR;ZAYb<He&;sk ;nGe*; Wc]T FLEX,;,CEcUCHIEUM;,Sr*;,SOUm~ ;-SIMPLIFI%;::rZ;:FULLWIDdk:;:MED
EFAIDc[;l4g$;g5MAKSURA;APc$XIMAdh;jPjF;ATOMb%BOMB,;l<hQ;pMDU ;pMDU,;CEDILLA=;eUTlE;EKFONITIK+;j_-POS
T ;ohSdu;GREeK-dmN;hNlz;kbjE;kbjF;hSlB;olCEIL;h1Slu;p)b%;sR ;ope+;h7SECgd;ktjl;mIVAYA ;LAGABlI;h*b
W<;fEckhB;LcU-BRa9H-;kC^;LUNeJSIGMA;cupD;MAdnMAdpAL;sX,;mXg(;MOONnH;fRod;cRmlS,;fWon;fWmC,;fWm+
,;iqma;cXpZ;m%ht;m%ESIS,;r<I,;s8 ;m<KNUCK;R<fEck;RUNNbQhJ;TEH cyBUdd;f?o3;f] PWO ca;iY,kh;neDeH;dFq
Q;UP-qC;ll^;UTR!j0;q4a|;npiK;tc:;gwNASb~I ; :tc; t~;gKnF;,Ss|;:DIVES AKURU ;:PAHAWH HMcU;:Sb)WRIT<;
:_j0;aXhZi!;jHjG,;n&>;hcED-iR;DANbn|;rrOXI;j&H[;j)-STRUCK;E sH;E,tc;hqON[;od cX:;bW<SVAda;hCmC,;hIj_
S ;hIoR;GARi[Ga(;b1dWjG,;tE ;GUNJALA GONDI;H sH;H[k^;olhG;I,tc;kmmZ;tN,;ISOLAT%e+;ITAcmlE;kHd(bp;m
Zk*;mZlc;mZlf;kI-WELSH ;oJSdzK;OicN[;PALAT!hX;QUESqS;k+bW<;k[ jE;SETjmSbT;k^~;lcbYWa*;UPSILON[;o!h
H;o$=;t_ ;t_,;nrSf0 ;dZsj;WaW*ZA,-A,;d0sj;sjSHW;d1sj;d2sj;i_nD;d<daTUi1; _mb;jcnD; WIGGcsFENbe;,Ctn;
,uB;,uX;lSlE;:eQDRAWb>S ;:cza)M GONDI;:tY ;:MEETEI MAYEK ;jESIcCa&;eCCqa;APc$XIMATEcs;jPhKa|;jQo
9;n&^;eUTo>;CRYPTOb1MMb%;j8l= ;pP=;DIALYTIKA=;e2-qC;EGYPTOoA;j<S jV;e$VALe8ds;H tZ;olbhST,;IMOUajcx
Sb?;uJ,;mFe=*;>drkC;>drll;h*qC;h*TO-^;~aHfe;~k^:;cRCHa)CdjS,;PAIR%g9S,;k+TO->;leoM;TULU-TIGALa< ;nf
R[;U o!e+;VAd|akg4;q4h<;q4h=;o$i~;o%OSOKA ;gwsj;gysj;gzsj;YEO,Ye5dZWA;YPOGEb1McBI,; uX:;nCl=;[mkE
R;u<S;amRk=hK;:l!~;:INSeUgd!;jzo?;:m%ESIZ%;l0~:;q~NEUME;Au<;ALMOST od;rde+,;u~,;jPqC;n)~;rqiK;pQll;
Eu<;mti6MIS;bYWa*-bW<;H uI;HAuD;hS=>;HEuD;Iu<;IdjAsd;h+=>;fOb$dGbCO,;Ou<;qCkn;POK%pH;POWERS cRe<,;c$
SGEb1McBI,;iCsd;r]hX;^drkC;k+qC;r~RECEI;k~m+S ;k~m+S,;dvTOISEd)LL ;qZjF;qZjU;YEuD;d8c)c>c_c<;d8U,WEO
,d0d1;[rv;,v3;:l!LIGAdDE;:CUNEIe+i^;:cFtK;Ad|akg4*;jQrx;jQrZ;rmll;me<g<;DODEKAdeYFht;E vo;hIe1 jF;
H vo;okdOg(;hS=^;HEvl;b=EPbMe8SVAR;ISOSCELES ^;h+=^;iasH;qi~;NORcwd<GROdO;O[fd=;cTg<nD;fWj< g=;oWSOL
IDdR;oWSm6;s(g9;TEa*ROP-SPOK%;TIMORI+DIht;i3h?hz,;o6-e^%;U[fd=;gug$abLECT;o$nF;i)sM;YPRIOTq); v3:;so
E=;wiS;aHU,I,aX&e5;wj ;wk:;:oi~:;:MULdfrT;A[jYew;Awi;sAk^;jQ>^;jQs1;jQs2;jQs(;g9tl;g9tm;Ewi;mvsd;h
Cj_S SPRE;HAv9;HEv9;sOkz;Iwi;iatN;iatZ;qmn<;O[leew;Owi;PaS*eLHg2;wJ,;s=jF;s=jU;lqLbNdkfM;gxZerHa2Ta
2;YODH,b~H,mM;nTrT;nUCHOiI :;:MEROIdpd&SIdW;:wC:;uhe]-;:ZANABAZARnC;jEj)-h<;jESb>LE-h<;l%ALPAPRAAN
A ;rn jG,;hBuH;HAwu;rOnx;oji=g(;HEwu;fcu<;rRnF;h9uI;Kw&;w+,;fWoUjV;fXgllae<;k[ cXod;f+u<;T(ELEV(TWE
LdX;o)r[;YEwu;YERU[eM YER;d<kqo?;[uS;:ETHIOPICq);nUJcUiI :;u[g?;jESmNhr;jIuX;jPrZcR;l%MAHAAPRAAN
A ;g)u<;jZuX;g]u<;j1Dth;unDANbn;j~uX;olFRONT Wa6,;IX Sv=;h9vo;h( uX;h*STEM qT;iavo;mZR<mQ;Nd4giTT
Henen;oRsB;m) S KHOKHLOM ;SIXji,Eh4cI;lfuX;qS qv;qVrh;o9sA;abMIhhT oT;[eZjEew;[eZrl;:BAMdK~PHASE-;:C
ANADffSYLLABICS ;lTuX;A=vM;l8l3lp;BIRGA[qv;v6KOMI ;E,VbAb5bpIbFHbF;w%AD ;fcwi;kEu<;igqBi^;qFf>VIS
I+;t&ckhB;oYcIEdFhf;qZo$cs;U,EF,*TSEd],S*;t~aXhZ;[:VRACHY,kE,;,s1qC;:l!tY ;jx :uX;:xV:;A=v?;jIv
3;g)wi;g<-~n);g= pQkC;g= v5;jZv3;typC;g]wi;n+uX;rxsA;hCSv=;hIu0LIM;j~v3;h( v3;rZsA;~k^n);MID-Hj+>h
X;mZvq;mZvr;lfv3;U[vf;WAY >WAY dwFFIC,;lTv3;uhqk;A[rn=;wojP;rmkCk*;uqo>;E[rn=;w!KOMI ;j+Sv=;e$Le
K!rh;EXTbM%a)BIC-h6 ;rHd~oc;mziQg1D*N;kEwi;NYIAKbN PUACHUE HMcU;O[rn=;qFeSi&eF;wJ[;qZirfWeZ;[:>sL;wi
O[;jx :v3;:yt:;ts rH;n+v3;pPu<;e*ODD v>;sXd~oc;qFicbjPUT);w]ke;x^bR;wbn&;u2a>mt; ~aHuj;yZ,;rnu<;p
9we;hWjFuX;uJsp;h<xM;NAYAgKgHcjlvA;xw,hD;qCeMHewkn;YELORUSSIAN-sgI,;xaMbKcK;u<r% ;:tYth;pPwi;u
Jd~oc;rVwe;r5we;qFSTa!<mK;sov6;wXq!;:BYZeCNE cFtK;:e[WIDdkmA~:;rnwi;hWjFv3;sWqFj0;taqFj0;o
9xo;ts vo;rewG,;sAwQ;p9xu;tVqFj0;t]qFj0;sow!;rxxo;xo:dOjE;w*r% ;rZxo;wNpEa|;vPu<;whuX;[eZxM;:ycf+%;
:jx yv;jx yv:;n>i~v6;mZv^l|;s(xo;sqGLAGOLITsP;y[g?;rn xM;j3iCx4;qCk^qW];qCk^qW_;vPwi;whv3;[e
Zyh;n>i~w!;:Pc=bOjRhHe*q4;yDq6 ;rn yh;TaUSI,CHRIVI,S*i>YEc>YATI;s]v~jV;yDrK ;p9y!;~:vpsZ;bW<SNAK
E e^[s6;iQg1D*cGw[;s=qCo9jU;>t!^t!;o9wNsA;bW<SNAKE e^[mckM;oYgkmCabVENdFhfbR;rxwNsA;rZwNsA;k+SH
Ahl _wJ;s(wNsA;,l~,oviXdlm(,kg;S _g9gKb+x5;~aHujxAR;s_sAqVpFS,;t~ujxAR;y+x2E,;d8fpT%k^YdSl*,fpT%l*,;
T-:1,2ae,3,13,23ae3,4,14,24ae4,34d>d?gL;mzzXq8;mzzXqXDZ;a]vpsZmExZ;s<k|,bYTY,j]SIXTYjiTY,Eb(TY,cIE
T;z9r[L,o)LL,;z$r[L,o)LL,;uMrmkCuMvquM;xzf|iTe<iTFIFf=edf=jiiTEb(iTcIE;nck(k)mHk)kJk)k3iDjsiDpek)m(
,k)kg;msz+z);$B$G$D+(Vb<Z(T$b<K$LAS,M$Na(+Pa(ZHa(RAbE$f<dMPHa(KHa(GH$QARaib<CHb<C$JIL,CIL,CHa(X$JH$
Ha0b5Hb&d0Ha(HO;z<Y,t5gkmC,k~mC,hImCjgmCgQmClJmC,j+mCjh;z|mC,fWqQgkqQk~qQhIo3jgo3gQo3lJqQj+o3jhqQt+,
TWENt?f|t?bYt?j[o3eddFo3jit?Eb(t?cIET".toList.filter (· != '\n'))).foldl
    (fun known part => known.push (expand known part)) #[]

/-- The endings for which one stands that may give a range of numbers, written with as many digits
as its first. -/
def numbered (ending : List Char) : List (List Char) :=
  match parts '.' ending with
  | [first, [], last] =>
    let digits := (first.reverse.takeWhile Char.isDigit).reverse
    let start := Scan.valueOf 10 digits
    (List.range (Scan.valueOf 10 last + 1 - start)).map fun offset =>
      let number := Nat.toDigits 10 (start + offset)
      first.take (first.length - digits.length) ++
        List.replicate (digits.length - number.length) '0' ++ number
  | _ => [ending]

/-- Read rows, the first of which may go on at the given code point. -/
def Row.readFrom (next : Nat) : List (List Char) → List Row
  | [] => []
  | text :: rest =>
    match parts ':' (expand abbreviated text) with
    | [first, stem, endings] =>
      let first := if first.isEmpty then next else Scan.valueOf 16 first
      let endings := (parts ',' endings).flatMap numbered
      ⟨first, stem, endings⟩ :: readFrom (first + endings.length) rest
    | _ => readFrom next rest

/-- Read the rows of a table. -/
def Row.readAll (table : String) : List Row :=
  Row.readFrom 0 (parts ';' (table.toList.filter (· != '\n')))

end Callwise.CharName

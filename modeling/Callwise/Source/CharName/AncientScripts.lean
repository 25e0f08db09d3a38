/-!
# Names of characters in ancient and historic scripts

The code points 10000 to 11FFF: from Linear B over the old scripts of the Middle East to the
historic scripts of India.
-/

namespace Callwise.CharName

/-- The table of these names, in the order of the code points. -/
def ancientScripts : String := "
100aqmPBq)B0:08 A,38 E,28 I,61 O,10 U,01 bn45 bp07 bs14 bu51 DU,57 b^46 JE;1000D:mPBq)B0:36 JO,65 JU
,77 b|44 cb67 cd70 ce81 cf80 cv13 cA73 MI,15 MO,23 MU,06 cG24 NE,30 NI,52 NO,55 NU,03 c572 PE,39 c91
1 PO,50 PU,16 c%78 QE,21 QI,32 QO;1ap8:mPBq)B0:60 c)27 c<53 c>02 c^26 c_31 c|09ab,41 SIae SO,58 SU,5
9 de04 dh37 do05 ds69 dC54 dZ75 d040 d142 WO;1003C:mPBq):B017 ZaK074 ZE;1003F:mPBq)B0:20 ZO,25 A2,4
3 A3,85 a]71 Dd090 Dd248 NdZ29 PU2,62 Pdh76 RA2,33 RA3,68 RO2,66 TA2,87 Td091 dE;10050:mPBnGB0:1aE9,
22,34,47,49,56,63,64,79,82,83,86,89;10080:mPB IDEkVB1:00 M$02 WOM$04 DE)05 e$D,05F MAc<05Mada6I+06
F Ed006M Ra707Fd)-GOa?07M HE-GOa?08F SOW,08M BOa(09F COW,09M BULL,20 WHEa?21 a|LEY,22 OLIdX23 SPIbe2
5 CYc8US;:mPB cEkVB12:7 b~O,8 KANAKO;:mPB IDEkV:B130 OIL,B131d=bx132;:mPB cEkVB13:3 AREc55 MERI;:mP
B IDEkV:B140 BRONZbx141 GOLD,B142,B145 WOOL,B146,B150,B151 fd,B15av154;::mPB cEkVB156 dDO2;:mPB IDEk
VB:15aA5aE59 CLOdl160,161,162 GARib163 ARMOdQ164..172,173 cEdl174,176 TR&17aC185,189,190,191 HELMbU2
20 FOOTSTOOL,225 Ba[TUB,230 SPEa(231 jQ232,233 SWORDd?,236,240 WHEEL%CHa<cY241 CHa<cY242 CHa<OT hJ,2
43 WHEbJ245,246;::mPB cEkVB247 DIPTE;:mPB IDEkV:B248,B249,B25as253,B254 DART,B255..259;:mPB IDEkVVES
SEL B:155,200..219,221,222,22az229,250,305;101aqAEGEevWORDq% h=WORDq% bvd]CK fM;10107:AEGEsxz%z~Y o
3;10137:AEGEa8Wj+:a~E UNb]FIRSTpaSEbkDpaf|Dpae<THd<UNIT;:AEGEevDRY oDFIRSTpaLIQUID oDFIRSTpaoDSEbk
DpaoDf|Dd<UNIT;lTACROPHONb%ATTfgt6oL,fWmp,hDj]uwhCqQj[o3jgo2f?o2j[o2t4o2hCono2fWo3 o2hCo3 o2FIV
Eo~dio~FIFTYo~fWmCo~hCmCo~fWo3o~t+o~j[o3o~f?MNAS;lTACROPHONfgb6AEdKfWPLETHR+qPfXb6MIONfffXEPIDAUREa
8glqPglCYRENAb%gkmpS,EPIDAUREa8gkmpS,s^hDs^T(s^f?v0b6MIONffT(MESSENffT(qPT(qPk|,s^j]s^j[v0b6MIO
Nffj]qPj]qPt5qPk~mC,EPIDAUREa8uws^uwqPuwbdYSTffuwNAXffuwqPfWqQqPhCqQbqPHb%hCMNASgTTffj[MNAS;lT:oL?o
Li^v0q0S?k~m+S?YbG?TALbO?mp?OBOL?gkOBOLS?k~OBOLS?hIOBOLS?hCOBOLS?MEdxTES?KYa[OS a~E?LIdw?c0KIA?XESTE
S?ARTABE?ARc1A?b1MMA?TRYBLIcTa~E?ZERO?fWm+?SINUSOID?h6gdgG;::NOMISMAgG;10190:ROMevSEXdfS?UNCIA?SEMUN
CIA?SEXTULA?DIMIDIAabXTULA?SILIQUA?DENa<US?QUINa<US?SESdjTIUS?DUPONDIUS?AS?CENdDIALgG;::ASCIAlH;101
AarhNnGTAU RHO;101D0:PHAISTOS btClCPEDESdy$PLUM%e^,TATTOO%e^,CAPTIVbyHILD,WOM$HELMbUGAUNTLbUTIAc)j
QbbeaELD,CLUB,cxACfCMATTOCKagW,LID,BOOMERa$d[PbORY PciE,DOLIdLbjB,SLfoCOLUMN,BEEHIVEeaP,fd,HIDbxULL
S LEG,Ca?Ra7EAGckDOdXTUNNY,B&PciE TR&VfnPAPYRdSROSETdhLILY,OX eM,FLUTbAReKgTIN)k^AXE,i<BexrouQE;1028
0:LYCIswA,bx,BH,G,D,I,W,Z,dlJ,K,Q,L,ct,MctN,U,P,KK,c&,T,TT,$(H,X;102A0:Ca<swaS2,D,L,UUU,R,LD,A2,Q,B,
M,O,D2,Taiai2,S,C-18,dGN,d3,TT2,Pak,I,E,UUUU,K,K2,ND,UU,G,G2alal2af,b*C-39,TT,UUU2,RR,MB,MBav4,LD2,E
2,UUU3;102E0piEPACT o3S fM;:COPTb%EPACT mmy+x2E;:COPTb%EPACT oIz|mC;10300gYITALsPaKE,cbbpE,VbFE,b5Tb
5h0pVe%ipSb5cf)bRdhU,EKS,Pb5Kb5EF,ERSd],b*UU,ESS;gYITALb%in!:fXhDT(FIFTY;1032DgYITALsPYEd_f_N TSbEO
Uf_N TSE;:GOTHsPAHSaKAIRK$GIBaMAGS,AIHVdSQAIRTHc)IUb^HAGL,THIUdlEIS,KUScvLAGdScxfOAUTHS,J)URdSPAIRT
Hc)cIETY,RAIDAagUIL,TEIWS,WINJaNAIb!IGGWS,HWAIR,OTb2jhmC;10350gYc8MsP$BdQGa3DOI,bFHOI,DZHOI,ZATaMZ
IdeI,KOcbLEI,cBObCENcQVOOI,PEEI,REI,Sb*TAfeCb6YebOIaiCHOOI,YRY,i>ioEF,*TSIU,V)Y)YEc>Ya?b&d$d4IA;sqf
Vc8MsP$DOI,ZATaQENOEajI;10380:UGa<TsPALPaKETaOAMLaP*bqdeb8WcPEdeHOTaUbUYOD,fuSHb<chbnMbKDHa4fTZUagM
KaJfmUagbpQOc5RAS*dmNNaOHerdsfeSSU;1039bVUGa<dpjdhjER;gYc8SffiKaHfeb|cfe=U,Xg0b^JI,dedCbnbsDU,THg3Ba
NA,fOU,qfYaVaVI,c)c_Lg4ZaT*Sc|HA;103C8gYc8SIANlCAURAMAZDAaJURAMAZDAAanAURAMAZDAA*XSHAAYa[IYaMAHYAAgs
DAHYAAUSHanBAGaKUUMISH;:gYc8SIANjdhjER;gYc8SIsxfXgls<mC;104aqDESERETwTh?I,h?E,h?A,h?a2h?O,h?OOlKIlK
ElKAlKAHlKOlKcVAY,OW,WU,Y&H,P&B&T&D&CH&J&KAY,GAY,EF,V&e&TH&bRZ&e%ZH&)pVe7OI,EW;:DESERETvNh?I,h?E,h?A
,h?a2h?O,h?OOlKIlKElKAlKAHlKOlKcVAY,OW,WU,Y&H,P&B&T&D&CH&J&KAY,GAY,EF,V&e&TH&bRZ&e%ZH&)pVe7OI,EW;:SH
AVIswPEbPTcYKIbiF&Tfa,SOamRbyHURbfYEA,HgoBIB,DEaZGa1VOW,dnY,ZcVMEASUc<JUDGE,WcQHA-*LOLL,MIcAIF,EGG,e
IAbu+WOOL,OdTa2ROa(fTEa?eqIbedPOAK,OOZE,OIL,Ad0Ac<OR,AIR,ERR,ARRAY,Ea(I$YEW;:OScxYAo?et,a^deb^XaP*D
EbJRAageab<D*CAYN,GaNA,QAAF,KAAF,LA$MIb<NUdMgx*YaJ,n|aX&OO;104A0:OScxYA mmi?y+x2E;104B0:OSepv3aHa
3era2BRjBEHC*E,Eb<*Hd4h0EHftd4cgkDO,Ob<c5EHPpwdeEHdeghEHqXD*U,WaP*G*ZaWHA;104D8:OSepuXaHa3era2BRjBEH
C*E,Eb<*Hd4h0EHftd4cgkDO,Ob<c5EHPpwdeEHdeghEHqXD*U,WaP*G*ZaWHA;105aqELa~swaKbyEd],DbCbpDb5EI,bzbAb
Ab_He3b_cbckLLbBbCE,fOb_ipQE,c<RREahd~,dhTb5U,dXXE,Y,ZbFHbAHbAb3MaPHE;10530:CAUCASffALa_IswALT,BbUGI
M,Da?EB,ZARL,EYN,ZHIL,TAS,C*YOWD,Z*IRB,S*L$INd4XEYN,DY$Ca(JHc3Ka(LYb]HEd!QAY,AOR,CHOY,Cb7CYAY,MAQ,
Qa(NOWC,DZYAYd|K,JAYN,+TYAY,Fa7DZAY,CHa?P(b0YS,RATahYK,VEYZ,TIWRebY,IWN,CYAW,CAYN,YAYD,PIWR,KIW;105
6bVCAUCASffALa_ffCITrj;puwTaKBbxbyEd],bpDb5EI,bzbAA;1057CpuwT*H*I,Ib_b_b|cgfFMbCbCb_ipc%RE;1058CpuwT
SEd~,dhTb5U,dXXE;10594puwTY,ZE;10597puvNaKBbxbyEd],bpDb5EI,bzbAA;105A3puvN*H*I,Ib_b_b|cgfFMbCb
Cb_ipc%RE;105B3puvNSEd~,dhTb5U,dXXE;105BBpuvNY,ZE;105C0:TODHRrTaJS,a^MBg0CHjCDaM*EI,bzaOaQe=JAafb^*
Hb^I,b^b|cgfFkDNJ$O,c5c%c)RRpwSHdem]U,dVXaQXA,X*NX*Y,JY,ZaW*G*STaTK$K*PSaRO;106aqmPAi^A:B00as011,B01
3,B016,B017,B020,B021,B021F,B021M,B022,B022F,B022M,B023,B023M,B024,B02az028,028B,B029..031,B034,B03a
C041,B044..051,B05aw061,B065..067,B069,B070,B073,B074,B07az082,B085..08aA00-102,B118,B120ae0B,B122,B
123,B131aK131B,131C,B164,B171,B180,B188,B191,30as308,309A,309B,309C,310..312,313A,313B,313C,314..32
2;:mPAlCA32aw371,A400lQ01lQ02lQ03lQ04lQ05lQ06lQ07lQ08lQ09lQ10lQ11lQ12lQ13lQ14lQ15lQ16lQ17lQ18-VAS,A5
0as506,A508..513,A515,A516,A520,A521,A52aw532,A534..542,A545,A54aC557,A559,A56aw566,A568..589,A591,A
592,A594..596,A598,A600..604,A606,A608..624,A62az629,A634,A637,A638,A640,A64av646,A648,A649,A65as66
4;10740:mPAi^A7:01 A,02 B,03 D,04 E,05 F,06 H,07 J,08 K,09 L,09-2 L2,09-3 L3,09-4 L4,09-6 L6,10 W,1
1 Xae Y,13 kW14 ABB,15 BB,17 DD,26 EYYY,32 JE;10760:mPAlCA800..807;10780xek^n)AAues]hauehQs]halNAEl
Nn)BlNB[fc;10787:qivvDZ n[DZ upv]DZ uphdDEZH n[D[iRDsmD[fc=iRqJE,mcqJm8FbN n[RAMS fdpbG,Gsmn)Gsm
Hudn)H,HbNsmn^JwUhXLS n[LZ n[L[g*n)L[g*L[r]fc=g*LEZH,Lp2v]nfY,nfY[g*Oudn)cQmckWQ,vBqcvBh?LEG=v]R[i
Rs!fcpbR,TC uphddAn[dAupv]TbS n[T[v]V[^fc;107B2xek^n)Y,tDudqJtDudBILABI!CLIbiDbO!CLIbiLeK!CLIbiALVEO
La&CLIbir]CcmK[v]k^S[bmL;108aqCwSaHn|JA;10808::CwSJO;1080A:CwS:b|cbcdcecfcgckclcpcrcvMbBI,MO,MU,fOb
Cb$cMU,PaSE,c9PcNU,c)c<c>c^RUgOEaj,SOam,dedhdodsdCdZd0d1WO;10837:CwSXaHE;1083C::CwSZA;1083bVCwSZO;:I
Mc8I!a)MAsPn7qODALe&b5gxtgTe&y>q=fmn~izRbSnMW;10857::IMc8I!a)MAICnAgG;:IMc8I!a)MAb%oIfXgllas<t5fWq
Qt+;:PALMYRENEo?n7qODALe&b5gxtgTe&xaMbKj^fTcKq=fmn~izRbSnMW;:PALMYRENbwvsFLEUR+v_FLEURON;:PALMYREN
E oIy+T(i8Y;nYswj^jJjJj^Be&BEqODALe&j^b5b5gxtgTe&j^YODH,YODH,j^b~H,b~H,j^mMmMj^MbKMbKj^fTcKq=fmn~iz
Re%hzd*NnMW;108A7nYsxxw;nYevCRUCIhHm4e<;nYsxhDs<fWmC;108E0:HATRswn7qODALETH-Re%b5gxZAYN,He&Te&y>q=N,
Pn~QOPH;108F4:HATRswSHb<TAW;108FB:HATRsxfXhDs<fWmC;:PHOENICIswALF,BbUGAML,bqT,b5Wa]Za3HbUTbUYOD,fuch
D,MbKcKahMK,AfmEagbpQOF,ROSHnMU;:PHOENICIsxfXs<t5glgbE;1091bVPHOENICffWORDq%;:LYDIswaK,G,D,E,V,I,Y,K
,L,ct,O,Rak,T,U,F,Q,S,TT,$(LY,NN,C;1093bVLYDffs]fM;10980:MEROITb%rQsPA,e3O,d4dZeLAanPg2fOAanNbCEanc)
RAanLaP*HHAgOA-2ah,b|QaUaUAandhTEandsDA;:MEROITb%rQICnGVIDJ:,-2;xd~aHe3O,d4WaKg3kDNE,c)LaP*HHg4n9S
Aah,b|c%dedhdsDA;109BCxd:p6ELhungS,p6oL,qbRMT,qbIMN;xdoIz%s<k|,bYTY,j]SIXTYjiTY;109D2xdoIt5gkmC,k~mC
,hImCjgmCgQmClJmC,j+mCjhmC,fWqQgkqQk~qQhIo3jgo3gQo3lJqQj+o3jhqQt+,TWENt?f|t?bYt?j[o3eddFo3jit?Eb(t?c
IEt?t4qQgkonqQk~onqQhIono3jgono3gQono3lJonqQj+ono3jhono3;xdp6:fWng,gkngS,k~ngS,hIngSjgngSgQngSlJngS
,j+ngSjhngS,f?ngS;q_rTA;q_Iucfeo)R;10A05q_IucE,O;10A0Cq_I :w|jj|R<g)jjx(A;q_rTmFe=HA;10A15q_rTCjBJA;
10A19q_rTxZz)vDZA,*KKaUTT*TgiVHA;10A38q_IlCBa&jFCAUbneZg);10A3Fq_I :npj%fXj%glj%laj%e<,m4T(m4i8Y,m4t
5m4fWqQp6oL;10A50q_I t%:bvlNmbmbn= eOMa$AfyLOTdSxQcnES;10A60gYSOUdka)BIswb5mMHe&MbKizgxSHb<Re%Be&TAW
,Sa?b~H,fTKHe&SADHEagMEKH,FE,et,AYN,DHADHbAIMbJDALe&GHAYN,Te&ZAYN,Db2e&YODH,dmW,dnTH;gYSOUdka)BIevm
4fXm4j]inb%p+;gYkPa)BIswe~fyHa2MEbKf7gxESanRbIBbITbIES-1,fuNO+KHa2SaZES-3,FbIet,erDaZGEbKDa4GHerTa2
ZerTHa4gBTe~ZAH;gYkPa)BIsxfXT(i8Y;10AC0pnswn7dlBHEqOGHIMbJDALe&b5WAW;pnANlCUD;pnswZAYb<ZHAYb<JAYb<JH
AYb<He&Te&YODH,b~H,XAPH,ccPH,mMDb3EDH,Tb3EDH,MbKcKq=b<AAYfmbzn~izXOPH,QHOPH,RbSeaNakHb<TAW;pna8tr k
FjFg);10AEBpnsxfXhDs<fWmC;pna8s8aaf<FLEUR+|bvgKb+e0bvgKb+e0e0gkhkh<FILLER;10BaqAVESTswgZAO,AAO,$A$a0
A&hpiohZi!cbXE,Xd6XVbAbAGbAb5beb_dhTb5bpDb5TTbDbzbxbxHe4e4Ye4VbCbCYbCNE,cAHcAYd6d6dXc<LbEbFEaibFHEai
YEakb5HE;10B39::AVESTa8l4AsdTINY yUs8lNyUs8;:kw:yUs8,fWbvi[qZs8,gkf&Si[fWR<s8,fWR<irgkf&S s8;vTc6TH
Iswn7qODALe&b5gxtgTe&y>q=fmn~izRbSnMW;10B58vTc6THIsxxw,s<t5fWo3;vTkZrTn7qODALe&b5WAW-AYIN-Re%tgTe&xa
MEM-izcKagMEKH,PEagDHEnMW;10B78vTkZI oIxw,s<t5fWo3;:PSALf[kZrTn7qODALe&b5WAW-AYIN-Re%tgxaMEM-izcKagM
EKH,PEagDHEnMW;10B99:PSALf[kZIaaECsdnfSECsdhIe1gKlzhIe1[bv;10BA9:PSALf[kZI oIxw,s<fWmC;10C00gYdDKsPo
N,o+A,o+a0m9I,o+I,o+E,m9O,m9cQo+cQm9aYo+aYoNEB,o+AEB,m9a1o+a1oNEG,o+AEG,m9aZo+aZoNbHm9EZ,o+EZ,oNY,o+
AY,oNEY,o+AEY,oNEK,o+AEK,m9OEK,o+OEK,m9a4o+a4oNbJm9ELT,m9bKm9$oN(o+A(m9e9o+e9m9ENC,o+ENC,m9ENY,o+ENY
,o+ezm9e7o+Ae7m9bPm9cWm9IC,m9EC,o+EC,oNQ,o+AQ,m9IQ,o+IQ,m9OQ,o+OQ,m9a(o+a(oN)oNS,oNbRm9eIo+eIm
9e%o+e%m9a?o+a?oNbUo+AbUm9cYm9Ba=;10C80gYHdNa<ANwTgZEB,AMB,EC,ENC,ECS,bHexE,eTE hpEF,EG,EGY,bIhZEJ,E
K,AK,UNK,bJELY,bK(ENY,ios0cQr^cQO&bPEMP,)k])bRESZ,bUe9ETY,Ebfi!s0dJr^dJEV,EZ,EZS,bO-m[Sb),US;10CC0gY
HdNa<ANvNgZEB,AMB,EC,ENC,ECS,bHexE,eTE hpEF,EG,EGY,bIhZEJ,EK,AK,UNK,bJELY,bK(ENY,ios0cQr^cQO&bPEMP
,)k])bRESZ,bUe9ETY,Ebfi!s0dJr^dJEV,EZ,EZS,bO-m[Sb),US;10CFAgYHdNa<sxfXhDT(j]t5fWo3;:HANIFI ROfbY
A ~emg3degiJg0*K*Fg1Dbnc)RRaWpwkrcgkDWaPINNA dZYaPINNA YAafjDVA;:HANIFI ROfbYA :lqA,lqI,lqU,lqE,lqO
,h_SAKb<h_NA KHONNl3b4BAHAYjjTAb2l3dfl3TASSI;10D30:HANIFI ROfbYA mmi?y+x2E;10D40jv mmi?y+x2E;jvucA,I
,O,EE;jv :w|amKUN;jvwTaLg2b|a^Jg4dZLaOg1XA,d4deRjDFaQg3*fVb|fVNA;10D69jvubE,rqGEcDAsdrorvro|rvrqm2
Asdki,REDUPcmrj;jvvNaLg2b|a^Jg4dZLaOg1XA,d4deRjDFaQg3*fVb|fVNA;10D8Ejv :f5?iegG;10E60:RUMI mmy+x2E;:
RUMI oIz|mC;:RUMI p6:oL,t6fWf|D,q0S;10E80:YEZIDrTELIF,BbDbDb5THbEbyIM,CHIM,CHHIM,H*XaMa4Za4c)R*ZA,J
AajNaib<SaZDaZTaWE,EYN,XHEYN,FaVaVA v0f7fuccF,GAF,fyMIM,fTdLgxOW,EW,HAY,YcYET;10EAB:YEZID
I sqkbh|roh[ h|kirj;10EB0:YEZIDrTchwhYOT[rn ABOVE;10EC2vS:pOx_jUqMx_jUp]x_g);10EFCpfrog5kYY;u=cqjd:S
AKdeQASR,h[;gYSOGDIswjJj^n7dlj^BEqOb5j^b5gxtgy>,j^fTj^cK[q4f+q=b<rdAYfmn~j^SADb5j^SADHE[q4iRRbS-AYI
N-DALETHnMW,j^TAW,j^TAW[q4f+;gYSOGDIsxy+s<k|,fWmC;gYSOGDIevp6oL,p~AYIN-DALETH;10F30:SOGDIswn7qOb
5gxtgy>q=fmn~RbS-AYINnMW,Fe&LbS;aGOGDffb=EPbMbOd*N;:SOGDffro:rwwdrvwcj9jFj9jUhWjFhWjUh?hWjURbS jUSdz
KE g);:SOGDIsxfXs<fWmC;:SOGDfft%:gkt_S,gkt_S[hkj1q*dElyS[hke[ly[bv;10F70gYUYGHURo?n7dlGIMEL-He&gxZA
Yb<j^He&y>agMEKH,Pn~RbSnMW,LbS;gYUYGHUR ro:rvrwwcqZg);gYUYGHUR t%:eOgka|S,gkhkhIe1;10FB0:Cb9ASMIswj
Jk^n7qODALe&b5gxbmL%gxtgy>q=fmE,RbSnMW;:Cb9ASMIsxxw,s<fWmC;10FE0:ELYMAsPn7qODALe&b5gxtgTe&y>q=fmn~iz
RbSnMW;::ELYMAb%p~ZAYIN-YODH;11000nSiK:ymo(JIHVAMULId4UPADHcxIYA;nSz=z^VwmfFr(LfFr(Rc)r(NNNA;nSt~AaK
HATTIc$LU ujxARr[L,o)LL,msAU;nS:npunDa!A;nSt%:e0|e0h=n= eOLOTUS;11052nSoIz%z<Y,t5fWo3;nSmmi?y+x2E;nS
:iKr(np~r(k]E,~r(k]O;nStcr(k]:E,O;:nS~r(LLA;1107FnSoIfsER;jwIlCymlpA;jwIy9msz+DHen*Rz)vDHA;jwIucujms
AU;jwIlwt|kQtr?Eing$?kR?SECsd|SECsdxQtco)R;110CDjwI kRlwABOVE;110D0:SORaIOMPbNo?Sa2Ta2Ba2Ca2Da2Ga2MA
Hafa2La2Na2Va2Pa2Ya2Ra2Ha2Ka2Ja2NYa2a2EbIIH,UH,OH,bIMAE;110F0:SORaIOMPbN mmi?y+x2E;111aqbgKMAlCymlp
A;:bgKMAo?aXfeE,KAaPe>GAaOe>NGAaLAaLe>JaXJe>NYAaUTAaUTe>boene>NNAaUAaUe>DAaMe>NAaSAaSe>BAaKe>MaXYYaX
YaXRaXLaXgwSaXHAA;:bgKMAucA,hZi!msa]OI;:bgKcu:O h|AU h|npMAAYYAA;1at6:bgKcummi?y+x2E;:bgKMAaaECsdxQu
T,~Le>tcaXtcEI,~VAA;11150:MAHAJANI vue5vpCjBmExZmzzXc)LaVg4*RRA;:MAHAJANIlwkQtr?SECsdp~SHRI;11180:S
Ha)DAlCymlpA;:SHa)DA z=z^fFvDHA;:SHa)DA z>msAU;:SHa)DAlwt|pJiKJIHVAMULIYl3UPADHcxId4cSxQtr?SEm$,SjMf
MjjkQlqqih|EXTc(k]lqfMamTc(h|tcPc]HTb3ATc(Ejjp>pMDU;:SHa)DA mmi?y+x2E;:SHa)DA :EKAMjjSIDDHa7e^SdzK
Ed^TINUg$?SECqS-1ahCqS-2;111E1prn9mmy+x2E;prn9oIz<Y,t5fWo3;112aqKHOJKrTgZfemsa]mFe=e=*sZb^JJA;11213:
KHOJKrTxZmzm]DenDaM*NpveLeLHg2q8Vg4*LLA;:KHOJKI x~U,msAU;:KHOJKIlwl8l3t|kQSb)d(DbnxQWORDq%ahCsd|SE
Csdtr?iKSUKdM~c%~k]uGo)R;11280w0A,feE,mFGA;11288w0GHA;1128Aw0CjBb^JJA;1128Fw0xZDenyOpvBA;1129Fw0BHg
2q8Vg4*Rc)RHA;::MULdfIabCqS;112B0:KHnly9msa]mFe=e=*sZb^JmExZbnRRenyOpveLeLHg2q8Veog4HA;:KHnllwl8A;:K
HnlucujmsAU;:KHnllCkQgvMA;112F0:KHnl mmi?y+x2E;ataqoiiKsql8n4ymlpA;at05wZA,ujxAL;at0FwZ&AI;at13wZc
Vz+yOA;at2AwZw[d4RA;at32wZcgLLA;at35wZvDHA;at3B:sqBb=U g);:oiiK:kQAVAb1HA;:oiz$R;at47:oit~&AI;at4B
:oi:tccVtcAUjjgvMA;at5aroiOM;at57::oiAU LbNdkfM;at5D::oiiKPLUTA;wZlopClo|pCo)Rr[LL;:oitco)L:,L;at6
6sqoimmi?y+SIX;at70sqoi~:aPaQaVI,PA;at80:vAz9r[L,o)LL;at8B::vA~EE;at8E::vA~AI;at90:vA~:cVz+z)VwmfF
Rc)LLLA;atB7::vAiKAVAb1HA;:vAz$r[L,o)LL;atC2:vAt~EE;atC5:vAt~AI;atC7:vA:tccVtca]AU LbNdkfMjjl^AcKASI
KA;atCC:vA:iKx(l3t|fH%npmd)REP*GEcDrjjjPLUdeunDa!A;atD7:vAiK:OM f6PIKeoRII f6PIKA;atE1:vAloi3:SguTaJ
NUDATTA;114aqNEWA z=msa]vpfQNG*CjBmENYaQY*giTTHenenyOaQ*w[M*lrR*cgL*WAd|akg4HA;:NEWA z>msAU;:NEWAl
Cnpymo(kQpJj^l8A;:NEWA :OMajDDb7xQj4GAP FILL)trgG;:NEWA mmi?y+x2E;:NEWA :|j4c!CEHOLDbQfM;1145D:NEW
A :INSERgd?SjMh|~lol8l3JIHVAMULIYl3UPADHcxIYA;11480:jAddANJI;jAddz=z^vDHA;jAddz>ElKmsk]O,AU;jATAl
Cymo(npkQAVAb1HA;jAdd:GVeztr?OM;114D0jAddmmi?y+x2E;11580pqz=z^vDHA;pqz$R;115B8pqt~msAU;pqiK:ymo(npkQ
SIDDb3;pq:xQSEm$ bvahm$ eOf$TIqSjnrCT fM;pqSECqS[dyDbO=:U-m[oOS,mnn=S;pqSECqS[RAYS=mn:n=S,|n=S,nen=
S;pqSECqS |f&:,[RAYS;pqSECqS[:|n=S,nen=S,r?n=SahPTUPcjn=S,j1S=RAYS,j1S=gkENeTURbRj1S=hIENeTUc=;pq~
:lbmardI,dE-mardI,dE-mardb*rdU;pqtcrd:dHU;116aqMODI z=z^VwmLLA;:MODI z>msAU;:MODIlwx(l3t|a*HACa!c)x
Qtr?iKHUVA;11650:MODI mmi?y+x2E;11660st:x)oYBIRbZ|x)nex)BIRGA[|qvoYx)oYBIRGA[|qvp>BIRbZp>BIRGA[|qvSW
IRL BIRGaTWIRL x)SWIRL BIRGA[|qvnfSWIRL BIRGA[|oO;11680:TAKRIy9z^Veog4*RRA;:TAKRIlwx(A;:TAKRIucujmsA
U;:TAKRIlwt|kQ~n9K*trgG;116C0:TAKRI mmi?y+x2E;116D0poPAO mmi?y+x2E;poEASt<bLmmi?y+x2E;117aqAHOMo?mFf
QcGderdTpvBg2JjBT*c)LaTjD*g1D*bZrde=*B*J*rdBA;1171D:AHOM v4mW:cgc)LIGAT<RA;:AHOMucA,ujE,AW,O,a3AM;:A
HOMlCKILLER;11730:AHOM mmi?y+x2E;:AHOM :m4T(m4i8Y,Sb)i_nA,Sb)nAjjRULa3SluVI;:AHOMo?CA,giTTHenenmzLL
A;118aqDOb1y9z^VwmRRA;:DOGc(z$R,msAU;:DOb1lwx(l3t|kQtrgG;118A0:tdwTNGAaJ,d1d$d4d8b*UU,e5ezbZceENY,YU
J,UC,ENN,ODD,TTbCgobna?a7BU,PU,HId8HOcpb9R,b4akUU,Sb*VIYO;:tdvNNGAaJ,d1d$d4d8b*UU,e5ezbZceENY,YUJ,UC
,ENN,ODD,TTbCgobna?a7BU,PU,HId8HOcpb9R,b4akUU,Sb*VIYO;:td mmi?y+x2E;:td oIz<Y;118FbVtd OM;uf~aHujE;1
1909:uf~O;1190CufzVJA;11915uf~:NYaUTA;11918uf~:DDenmzzXd4Yq8VwmfFZA;uft~ujE;11937uft~a3O;1193Buf:iKl
8l3tyiKHAcidenpPREFIX%NASAL?mWd4opc)mWRl3kQ|Da!aOAP FILL)rCT fM;11950ufmmi?y+x2E;119A0ppa< z9R;119A
AppARrTz^VwmfFRRA;ppa< z$R;119DAppa<ucmsAU;ppa<lwx(l3t|pJiKSIDDHa7e^SdzKusPc]HTb3ATc(E;11Aaqxg~
A;xgt~I,dJU,E,Oe5a3a]qJI;:xgw|;xgzVb^xZz*aMZ*Z*ZA,-A,q8VwmKSSA;xg:j^rqfMjjt|tyiKtxi=oOjjl^i=oOjjx(aL
LUSdj-op~RA;xgCLUSdj-hzo?q8VA;xg:opp$,eT<p$,h_i7,fMi]h_j)i]h_h?i7,opj)-cn%p$,eT<j)-cn%p$eefsER;11A5
0n1o?A;n1ucI,dJU,e5Ohoa]xAL;:n1 w|;n1 zVmExZz*aW*ZA,-A,q8VwmKSSA;n1lCJIHVAMULId4UPADHcxIYA;n1 CLU
Sdj-op~:c)LAd|ag;n1 j^v4:G,Kaf,D,N,B,M,R,Lai,S,-A;n1lwx(aOEcDrjeefsER;n1 kFi7aiaZj)i]PLUTA;n
1 p$[ifewSUN:=nebXcA=bXcA;n1 djcD!fM-:1,2;11AB0x$NATdqIK :b7Hb*b8HcV*HAeoRIaiRIIaiROaiROOaiReoRAA;x$
SP:e3O,A;:PAU Cb+HAUo?c5b|Lg2DaWA,dVfQ*GaPHg4Bg0m]NaS*RaNjBA,n|UA,IA;:PAU Cb+HAU ~j^:P,K,T,ct,L,Waf,
Y;:PAU Cb+HAU :m>i3LfYm>i4SjMtD,m>wMm>i3hz,SjMtD hz,SjMi3LfYSjMi4SjMwMSjMi3hz,MID-LEVEL i4tD gueBMI
D-LEVEL wMMID-LEVEL i3hz,cq-oei3LfYcq-oei4tD,cq-oewMcq-oei3hz,tD hz;11B00sr p$:,[e^SdzKE;srlCBb2bxb2
EsmEXTbM%BHAckEXTbM%Bb2EsmWESf] FIVE-LIKE BHAckWESf] cIE-LIKE BHAckqJcIE-LIKE Bb2bBb=U;11BC0:SUNUWA
Ro?DEVI,TAScgEceIMa(REdHTTb7KIK,MaJPPHcNIP,GIL,b3SOd[Mb$a2BdQJYa2LOAC*OTTHIaiYEckVARCA,Ya?AVaJa4DOf
Qdmc>Pb4afa(KHeoY)bhLa%didCdnckKLOKO;aGUNUWARi^PVO;11BF0:SUNUWa&mmi?y+x2E;11CaqBHAIKSUKI z9r[L;11C0A
:BHAIKSUKrTz^vDHA;:BHAIKSUKI z$r[L;11C38:BHAIKSUKIubusAuGO,tcAUjjtyiKx(l3t|pJxQWORDslGAP FILLER-1,GA
P FILLER-2;11C50:BHAIKSUKI mmi?y+x2E;:BHAIKSUKI oIz%z<Y;::BHAIKSUKI mCS UNb[fM;11C70:cyCHbL:p$,fMd(
D;:cybhNo?mFbZsZJjDiQjCpvBg2qXDZA,u6q8SHg4*A;11C92:cybhNxDmFbZsZJjDiQjCpvBg2qXDZA,WaW*ZA;11CA9:cybh
NxDq8SHg4*A;:cybhNucaXfeE,O;:cybhNlCpCpMDU;11D00u?y9E;11D08u?o?a3O;11D0Bu?o?z+z)VwmfFKSc|JNd
4dw;u?ucujo)R;11D3Au?ucE;11D3Cu?uca3O;11D3Fu?ubAUjjx(l3kQiKCa!Rl3HAcidenpREP*RA-Ka);11D50u? mmi?y+x2
E;11D60:uCo?gZhZdHU;11D67:uCo?&AI;11D6A:uCo?cVa]d4dVeLHg2mFm]cge=Hg1D*NaLjBgiTT*fFmEDDen*NGpv*RAag;
:uC x~dHU;11D90:uCuc&AI;11D93:uCubcVtcAUjjx(A,npOM;11DA0:uC mmi?y+x2E;1au0:MAKASARo?krNGg3Bg2TjCg0Jj
Dq8Vg4A;:MAKASa&:a$b|tcuGU,tcuscNASSIMBeze6OFnA;11FaqKAWIlCymREP*lpA;:KAWI z=hoO;11F12:KAWI zVmExZz)
WwmJNYA;:KAWIucaXrdujo)R;11F3E:KAWIuchoEU;:KAWIlwKILL)md)unDa!A;:KAWI s8aaECqS)rdSECqS)Fcq)SPACE FIL
L)e0|e0nee0mbFILL%j1gRa4eT<SPIRAL;:KAWI mmi?y+x2E;:KAWIlCNUKTA;11FBarcoU ~YHA;11FC0l0p6:fWlbmC-a!-i8
IEnaONE-mC-a!-SIXTIEnaEb(TIe&m7TY-e<nabYTIEnak|-SEbkD,k~Eb(TIETHS,k~SIXTY-e<THS,fWi8Ie&m7f=TH-1,m7f=
THanfWdinaj<,k~i8IETHS,k~SIXf=THS,fWFIFdlt6oL-1,oLanwae2SCAL<bWTcXKIIZH;l0iK:NbJCEVIdCAAZHAAKKdHZHA
KcfMUUVUZHAKcfKURUNI,PAdmKcfMUKKURUNI,KAACU,PANa7P+Va)AK$PAARa7KUZb7VELI;l0:WbTCULTIVg$?DRY CULTI
Vg$?La!?SALT PAN?dwDIgd!blDIT?dwDIgd!kR?bmRbO?ewODD?SPbO?TOTAL?b+POSSESiLSb)gST<FROM?iKMUTHa5Yl3VAKA
IYa)A;11FFF:l0t%rCT;"

end Callwise.CharName

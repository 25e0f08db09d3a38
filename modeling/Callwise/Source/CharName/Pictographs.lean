/-!
# Names of pictographs

The code points from 1D800 on: sign writing, small modern scripts, game pieces, pictographs and
emoji, tags and variation selectors.
-/

namespace Callwise.CharName

/-- The table of these names, in the order of the code points. -/
def pictographs : String := "
1D800xf:hBh5nJh5gNknOV!knkhknjNknsIg+makmg+hBlci( kmg+sIx]kmCUPPbHsImBsIfb%cqnJkmfbE,sIkInJkmkI
,xlg+xlt&fCxlmBsIdOmZmBsIfb%r6xlbkkq;xfxlmd%:kmg+mZg+CUPPbHfbED;xf:xlhcEDnJuHhcbHhBmZBbOi[knsIBbOi[k
I,xliYnJuHiY;xfsI:kIq&lcg+mZBe8iYq(uNg+mZfb%SPREAD s>dOmZfb%s>dOmZfb%lcrpfb%mZdOs>mZdOSPREAD uY;xfs
IuN:CUPPbHj1D,fcbHfbED;:xfhBlcn$uHSdwb(T;xfxlmd%qRE:, rp BbO;xfhB:uNfc%kmdPtMfc%r6uHmd%fb%s>uHhc%s>u
Hmd%uY,uHmd%CUPP%uY,uNCUPP%kmdPtMCUPP%r6uNn<kmdPuNn<kmmBtMa$L%f2r6tMa$L%b+r6tMn<mZUP;xfsIuN:md%mBa$
L%OdTa$LED;xfhBuNa$L%:f2kmdPf2kmhcbHkmUP;xf:hBtMfc%mZmBhFhIj_S;xfhFux:g+mBrpmd%SPLIT;xf:CLAW uxrph
Buxmd%g+khuxrphFw%aZhFhTw%aZhFx<hIg+hFhTx<hIg+hFx<g+hFhTx<g+hFx<uYgNw%ADgNx<OP(khx<OP(OV!w%AD;xfh
Fx<fbED:, s> NO iY;:xfbXT;xfhF:n$PALM bWb>S,HEbJs>hTs>lcg+uY,SPLb[kms>SPLb[l|SPLb[l_s>SPLb[l_qRE g+S
PLb[fELE;xf:CLAW,CLAW s>CLAW NO iY,CLAW uY,fcd&cmdJfcgNOP(CUPgNiqqREgNqREgNiqNO iYgNNO iYgNiquYgNuY
,bmcmUE OP(bmcmdJmbOVa4OV!s>OV!NO iY,OV!uY,khOP(khiquY,fbE,fbElFkhiqs>khs>khiqNO t=NO t=qRE TOUC
H<knkhlcn$mZiFjOxlf&nJuHiFkhuHiFjNuHiFkhtTuHR<g+xlR<rpkhuHR<bkkq;xfhBmQ:hnhmRIPPLEq(hmRIPPLEd&VbHhm
Of_SlyD,UP;xf:hBlci( mQUPnJmQdPOV!mQdPjNmQdPhBmQx]mQg+hBmQTOUbhS iY,hBmQt=mQiY,hBmQkmt=mQsR,jNmQtMtM
OdTjNmQtMsR,hBmQh5nJmQknkhmQknjNmQknxlfELEnJuHfEckkhuHfEckkhiFjNuHtTuHj7fELEnJuHj7tTR<hnkhR<hmtMhWkI
,jNR<hmuNh5lzrIdPrIx]t(mat(OV!t(jNt(rIkI,rImZrprImZt&fCrIknrIiY,hWR<iY,sIt(makmt(bmcmUE kmR<mQ+hWkm
R<mQOdThWkmR<mQb<hWkmR<mQi(gNkmt(khkmt(jNkmR<mQOdTjNkmR<tTmZhnkhkI,hBr6mar6hBmZx]mZdOs>hWmZiY,hBuNt
TmZtTmZt(mamZt(bmcmUE xYONgNmZt(khmZt(jNxYOdTjNxYb<jNmZt(maxYBbO;xfCLAW xYbkkq:, SIDE;xfhWxYbkkq: Od
T b<;xf:khkmmBsIs>khkmqRE;xfhBsRaafhlcn>,SfhlcrpSfhlcg+Sfhkmg+SfhBOdkg+SfhkmfbE,bYWa* h5q(bY
Wa* kmg+hXbmcmdJj9lcINSIDE;xf:CLAW tMj9lcmDhBtMj9lci(,hBsRlygNsRgNtMOP(khtMOP(khtMkxkhkmt=sRlFjNtMOd
TjNtMb<jNsR,hBiY;xfhBlc:HEbJSfhn>,SfhrpSfhg+ogn$kmkI,n$mZiFn$t(i( gkj_S,irgkj_S,i( k~j_S,i( hIj_S
,irhIt&LES;uh:e]-FIST,e]-hBHEbJTOUCHnBTOUCH qlTOUCH n%b1SPnBb1SP qlb1SP n%SdyKEnBSdyKE qlSdyKE n%BRU
SHnBBRUSH qlBRUSH n%RUBnBRUB qlRUB n%SURbWElHSamRhvn%SiBE fzEnBSiBEi_nBSiBE kwqlSiBElEqlSiBEabQUmu
FcmK fzEnBFcmKi_nBFcmK kwqlFcmKlEqlFcmKabQUmuSiBE FcmK sv;yDkh:nn kxnnlFUPabQUmue2abQUmunn n
8<kxnn svlFSfhdrSfhSCISSORS;yD:q6 j_ hbCT,rK j_ hbCT;zPSb>LEq&:Sh]mYkxfzEST;zP:Sb>LEtjj)q(j)tj|sv
,|svtjhc,liq&qjlitjnesv,nesvtjBbMlFBe6mYBe6kxj6lFmfmYmfkxmfoZd]CKi_d]CK kHd]CK kxBOXlFeQmYeQkxnv
Sh]nvmYnvkxf4SlFf4S mYf4S fzE;uhdwVEL-q6 oZ-:q6nBq6 moq6 sv,rKnBrK morK sv;uhdwVEL-q6aaHAh$ARM SPIRA
LnBARM SPIR!moARM SPIR!li;yDpQAWAYnwmYkxfzEST;yDpQo5:Sh]mYkxfzEST;yDpQn$:AWAYlFAWAY mYAWAY kxAWAY fz
EST,o5Sh]o5mYo5kxo5fzEST;zTSb>LEq&:Sh]mYkxfzEST;zT:Sb>LEtjj)q(j)tj|sv,|svtjhc,liq&qjlitjnen
8<qjnesvtjBbM,j6lFmfmYmfkxbhbiBOXlFeQmYeQkxnvSh]nvmYnvkxf4SlFf4S mYf4S fzE;uhdwVEL-rK oZ-:rKnBrK mor
K sv,q6nBq6 moq6 sv;:uhdwVEL-rKd(Kb>;zPj9m+nwmYkxfzEST;zPj9e[-j1nwmYkxfzEST;zP:j9lbm+lylFj9lboUmamYh
YSh]hYmYhYkxfHlFfH mYfH kxfHlEmoi+j9j)lFi+j9|mYi+j9|kxi+j9lilFi+j9nemYi+j9nekxj9dnNq(bmV%hclFbmV%j7k
H;uhoZ-q6aab>ckmon8E;zP:SHAh$j9xShYxSfH xSi+olFRONT Wa6;uhoZ-q6 n0xS|xSn8<olFRONT Wa6;zP:j9vmhYvmf
H vmi+olbhST;uhoZ-q6 n0vm|vmn8<olbhST;zPi+pQPa[nwmYfzE;zTj9tJb>nwfzE;zThYtJ<lYmokwj)lNli,kwli;zTfH t
J<:SMa6nBfzEnBk^mokwj);zTi+tJb>nwfzE;uhoZ-rK n0tJfo|tJfon8<tJb>;zTj9uFnwfzE;zThYuF lYmokwmolilEli
,nekwli;zTfH uFaaMa6nBfzEnBk^mokwj);zTi+uFnwfzE;uhoZ-rK n0uF,|uF,n8<uF;zT:j9Sh]j9mYj9kxj9fzEST,j9bjB
INbHhYSh]fHlFi+SNAcbi+Sh]i+fzE;uhoZ-rKaab>ckmosv;:zTSHAK<m!L;zPARMlyaaMa6nBkHnBk^momXj);zTARM maolWa
6aaMa6nBkHnBfzEnBk^momXmokwj);zPWc]T maFRONTaab>ckj);zTWc]T maolWa6aab>ckj);zPj_lySaab>ckj);zTj_ly
S olWa6aab>ckj);uhDYNAMfgpFlFrgkxFASdccq,diSE,RELAXEDajMULdfEOUSajMULdfEf1sv,Ei)Of_ TIcAb1DUAL;uhe^:
, RIM;uhe^ MOVEMbO:-q6q(-q6 dqT,-rKq(-q6d&dX-rKd&dXly;uhhvhhi1oS NOSbwbYWa* dqTfodOcXhndOcXhmdq
Tb>;uhEYEBROWSq&:dPm3,e2;uhDREAMY EYEBROWS :m3 hnhmm3,dOm3,m3 UP;uh:bYEe^ m3,bYEe^ hbCT,bYEe^q+e( O
P(e( SiBbHe( eTbHEYE BcnKnBEYE BcnK qle( hQOP(e( WfhOP(e( hQeTbHe( WIDEN<qjEYEd=K;uhEYELa=ES :dPhnFL
UTTEf&;uhEYEGAZE-:q6q(q6q&moq6q&sv,rKq(rKq&morKq&sv,q6d&VbHrKd&VbHq6 eSLb>;uhbhEKS :PUFFbHm3amCKE
D;uhdiSE bhEKS :fa,kI,cq;uh:bGS,NOSE m3,NOSE hbCdbOSE Wc[KfCNOSE WIGGfCAIR Bcq<OdTAIR SUCK<b<AI
R BcqlEoZS,AIR SUCKlEoZS,bcAdkINHAckbcAdkEXb2E;uhkL:mcm3,mcogmchbCdccCbEcCEq+SMIcjOP(hL,hLq+hL OP(f
ZnxiqogfZq+iqOVa4iqOVALq+iqOV!YAWN,iqf!jOiqf!a$LEq+iqf!jNYAWN,KISS,KIc~ogKISSq+diSE,diSE ogdiSE SUCK
ED;uh:LIPS Pc=S%TOGETH)LIP kCirUPP)LIP llircq)kLj6S,kLWc[KLESnBkLWc[KLES j);uhTcUUEaagc<f2Fa(cmK<h>T
IP n$h>TIP TOUCH<INSfhkMINSfhkLRELAXbHMOVES AGAINST bhEKnISgc<c2nIINSfhMc2H;uh:TEe&TEEdkqjTEEdkcTTc
UdJTEEdkcTTcUUE qjTEEdkcTh>TEEdkcTLIPS qjTEEdkBIdgh>qkq6 JAW,qkrK JAW,NEbihPEXCITEMbOebULDbQHIP SPIN
EebULDbQHIP oSS,q6d+ULDbQHIP MOdXrKd+ULDbQHIP MOVEebULDbQdqT<hKWAIST,dvSO-q6q&SdxTbfdvSO-q6d&V%BbM
,dvSO-rK TWISTfollBODY dqT<hKHIP fsdBLIMB bjBINjSLIMB LbNTHjqj_,oz-q6lGoz-rK SPACE;uhoz :HEh4WIDdlDE
Pdle^ NEbidvSO,LIMBS DIGITS;uh:j4p8gPj2j2m%ESIS;1DA9BuhFILL MODIFIER-:av6;1DAA1uhoZ MODIFIER-:av16;1
DF00ydFbN updyLLu<qJm?G,yvnfGu<qJK,yvL[baT;yeLp2v]nfY[g*qJe7vBh?LEG=v]T[fc=r]fc;jx :~r]CcmK[r]xqb
S[|a|u<bS[|a|=hduXnfT[hd~p>tD[hd~SdxTCH%C[hdyvnfK;yeL[FISHhXDEZH upuSL[baT=uSbNxEvBuSs!fc=uSTbS upu
Sp2uSDEZH upv]IwUv]O[v]TbS upv]C[v]S[bmL;1DF25yeD[ywL[ywN[ywR[ywS[ywT[MID-Hj+>fc;1E000zEAZU,BUKY,VE
DbALAGOclDOBc^YESdCZHIVETE;1E008zEZEMLb^IZb5opIZHe3DJERVI,KAceLJUDIJbBYSLITbCASb7ONU,POKOJI,RITSI,SL
OVO,TVRIbuUcfFRIdCb6U;1E01BzESHzR;1E023zEYUlNYUS;1E026zEz&FITA;1E030:wCj!IClEemx+E,h0bJbKip)bRdhx|i>
E,d$DZZbEg|By=b_l(OgTh3U,PALOCHKA;pjd<StA~emx+E,h0bJipbRx|rPi>b0[UPgj,By=DZE,DZHE;:wCj!IClE:ESvP,xCg
Th3UsoE;1E08Fsqpj uXBYELORUSSIAN-sgI;1E1aqyQo?cvghNdede*cGXaQKg0Lg4ZaQCaQghKaMjDNRaVaQTXaUXaNA,c)c%
YaQQg3XYaQPaMLaQPcgHa2MLaScgbZRc)gZfeiohpW;1E130:yQ i5:B,M,J,V,S,G,D;:yQi^e*:k1,THfooz,ANIMa4INdYTEB
RATE;::yQi^XW XW,yQq)oyER;1E140:yQ mmi?y+x2E;1E14E:yQ :qbNYAJ,n<CA;1E290:TOTOo?PaKaUg1krkDfQSjBd4d
Zb^*c)cgI,n(I,IU,n(IdH,E,n(E,EO,n(EO,O,a0n(a0A;:TOTOlwm>dtE;1E2C0:ns~:aXaKaLg1bZYaS*LaQg3m]FpwJaWA,
WaVaPaR,a]Rg2K**e3fQU,LL*ghTc)fYAezezfo+(A$Nd4U(YIH;:nsi3:TdPTUPNI,KOI,KOINI;:nsmmi?y+x2E;1E2FbVnsNG
UNgG;1E4D0:NAG MUNDARrTO,cWOL,OY,fYaJJ,aYANY,a2I,IS,IDD,b]IH,dHC,dIUK,dQE,ENN,EG,bK(ETT,ELL;:NAG MUN
Da<lCOJOD,MUb9,TOYOR,IKIRamTUH;:NAG MUNDa< mmi?y+x2E;1E5D0:OL ON!~:O,cSfYORR,cVOY,A,aZaYa2a4AW,I,b]I
P,ITT,ID,b<dHK,UDD,UJ,UNY,dQE,bRbIEC,ENN,EG;:OL ONALlCMU,IKIR,HODDOND;:OL ON!mmi?y+x2E;1E5FbVOL O
N!trgG;1E7E0xFHHYaHU,I,aX&E,O;1E7E8xF:GURepHHdZHHd1HHW&HHWE;1E7EDxFGURepMW:I,EE;1E7F0xFGURep:Qd1QW&Q
Wbxd1BW&Kd1KW&KWbAd1GW&GWbzd1FW&Pd1PWEE;1E8aqMbME KIKAKUIq)M:ao cdap b|003 cf065 K&095 cb076 KcV04
8 ce179 KUA,004 d1005 dZ006 WUae6 W&118 d0114 gz045 d2194 WUI,143 WEI,061 WVI,049 WdV139 WdX007 Mb<0
08 M$009 MdM059 M(094 M+154 MU$189 MU(010 BI,011 a^012 BU,150 B&097 BE,103 BcV138 BO,013 I,014 A,01
5 U,163 &100 E,165 cV147 O,137 EI,131 b<135 b<195 $178 (019 SI,020 c|021 SU,162 S&116ab,136 ScV079 S
O,196 SIA,025 cl026 cg027 cr084 L&073 ck054 LcV153 cp110 h?ck016 bs017 bn018 DU,089 D&180 DcV181 bu0
22 do023 de024 dC091 T&055 dh104 TcV069 ds028 JI,029 b^030 JU,157 J&at b_160 JcV063 JO,175 h?JO,03
1 d7032 d4033 d$109 Y&080 d6141 YOOae1 d8034 FI,035 FA,036 FU,078 F&075 FE,133 FcV088 FO,197 FUA,10
1 F$037 Nb<038 N$039 fT117 N(169 N+176 b7041 *186 b!040 H&096 b5042 HcV140 b8083 HEEIae8 HOcZ053 Hb<
130 H$087 HdM052 H(193 H+046 HU$090 cHI,043 NGbZ082 cHU,115 cH&146 cHE,156 cHOOae0 cHO,159 cHAAae7 c
HUA,086 h?cHE,106 h?cHcV183 h?cHO,155 GI,111 bZ168 GU,190 G&166 GUEI,167 GU$184 NG(057 NG+177 NGU$06
8 c9099 c5050 PU,081 P&051 PE,102 PcV066 PO,145 MBI,062 MBAae2 MBU,047 MB&188 MB&072 MBE,172 MBcV17
4 MBO,187 MBUU,161 h?MBE,105 h?MBcV142 h?MBO,132 Kc9092 Kc5074 KPU,044 KP&108 KPE,112 KPcV158 KPOae
4 GBI,056 Ga^148 GBU,093 GB&107 GBE,071 GBcV070 GBO,171 RAae3 NDIae9 NDAae5 NDU,191 ND&119 Nbp067 N
DcV064 Nbu152 Nb^192 NJU,149 NJEEd> NJcV182 VI,185 dV151 VU,173 V&085 dX144 VcV077 VO,164 NYb<058 N
Y$170 NYdM098 NY(060 NYON;1E8C7:MbME KIKAKUI mmy+x2E;:MbME KIKAKUI rooIf=S,diS,mCS,o3S,t+S,ono3S,m1
S;1E9aqADchwTa5F,DAAclLAa7MIIM,BAajNNYIIYHbDbxb5c)bzA,I,O,D*Yb5gxfTfud4U,JIIM,Cb7*QAAF,GjDTdG*VaP*G
BbFa4KPOd|;:ADchvNa5F,DAAclLAa7MIIM,BAajNNYIIYHbDbxb5c)bzA,I,O,D*Yb5gxfTfud4U,JIIM,Cb7*QAAF,GjDTdG*
VaP*GBbFa4KPOd|;:ADfx:a5F oy)lqoy)GEcDAsdb3ZA,rqMODIFI)GEcDeJrqMODIFI)kQm2rj;1E950:ADfxmmi?y+x2E;1E9
5E:ADfxop:w$uT;1EC71:h6 SIYAQ oIz%z~Y qQLAKH,LAccN;:h6 SIYAQ :LAKH h|m4caOR,m4caOc*;:h6 SIYAQ m4PREF
IX%:y+x2E;:h6 SIYAQ :c!CEHOLD)p6t6p6oL,p6waiH h|m4rdfXm4rdglm4rdt+,rdLAKH fM;1ED01:OTTOMa8SIYAQ o
Iz%z~Y o3;:OTTOMevSIYAQ cyRAdf;:OTTOMa8SIYAQ rdoIgllae<,hDx2E,T(hImCgQmC,gkqQt+;:OTTOMa8SIYAQ p6:oL
,m7TH;au00yc:et,BbIJEbKDAL;au05yc:w~gBfufyMEEctO+SE(erFbISaZf7REHd~(TbITe~KHa2THa4DaZZa2GHern^BbIn^N
O+n^FbIn^QAF;au21ycop:BbIJEEM;au24:ycopHEH;au27:ycopHAH;au29ycop:gBfufyMEEctO+SE(erFbISaZQAF;au3
4ycop:SHE(TbITe~ccH;au39:ycopDAD;au3B:ycopGHAIN;au42zyJEEM;au47zyHAH;au49zyYEH;au4Bzych;au4Dycf+%:N
O+SE(AIN;au51ycf+%:SaZQAF;au54zySHEEN;au57zyccH;au59zyDAD;au5BzyGHAIN;au5Dzyn^NOON;au5Fzyn^QAF;au6
1ycSdxTCH%:BbIJEEM;au64:ycSdxTCH%HEH;au67ycSdxTCH%:Ha2Ta2gBKAF;au6CycSdxTCH%:MEEctO+SE(erFbISaZQA
F;au74ycSdxTCH%:SHE(TbITe~ccH;au79ycSdxTCH%:DaZZa2GHern^BEH;au7E:ycSdxTCH%n^FEH;au80ycfH%:et,BbIJEbK
Da4e~w~YEH;au8BycfH%:fyMEEctO+SE(erFbISaZf7REHd~(TbITe~KHa2THa4DaZZa2GHAIN;auA1ycuq :BbIJEbKDAL;auA
5ycuq :w~YEH;auABycuq :fyMEEctO+SE(erFbISaZf7REHd~(TbITe~KHa2THa4DaZZa2GHAIN;auF0ycoM :r5p9TATWEbJp9
DAL;1F0aqMAHJcU dqbwEASTd=D,Sc2Hd=D,WESTd=D,kPWb=,R%mqkamq_mqfWvwgkvwk~vwhIvwhCvwSIX vw
Shuvwj+vwikvwfWs3gks3k~s3hIs3hCs3SIX s3Shus3j+s3iks3fWs4gks4k~s4hIs4hCs4SIX s4Shus4j+s4iks4PLdLORCHI
D,BAMBcVCHRYSANdnMdLSPf&amMM)AUTUMN,Wh7,JOK)eM;1F03arDOr7sNeM;:DOr7rR-0:0nP1nP2nP3nP4nP5nP6-00..06;:
:DOr7q4eM;:DOr7o$-0:0nP1nP2nP3nP4nP5nP6-00..06;1F0A0:c!Y<Ca* :eM,ACE qo,gkqo,k~qo,hIqojgqogQqolJqo
,j+qojhqo,f?qo,JACK qo,mJqo,k$qo,K<qo;1F0B1:c!Y<Ca* :ACE r$gkr$k~r$hIr$hCr$SIX r$Shur$j+r$ikr$f?r$JA
CK r$mJr$k$r$K<r$R%JOKER;1F0C1:c!Y<Ca* :ACE t3gkt3k~t3hIt3hCt3SIX t3Shut3j+t3ikt3f?t3JACK t3mJt3k$t3
K<t3]JOKER;1F0D1:c!Y<Ca* :ACE qngkqnk~qnhIqnhCqnSIX qnShuqnj+qnikqnf?qnJACK qnmJqnk$qnK<qn_JOK)FOOL,
TRUMPef21;1F1aqmmZERO rMZERO j4fWj4gkj4k~j4hIj4hCbjMAgQj4Shuj4j+j4ikbjMA;pk:xPj%i?qmxPj%ZERO;ph:ZER
OgKlDu_jQDOLLARgG[kYID eMSLa=;vVytem,C,D,bz,G,H,I,J,K,L,ct,cN,Q,c&,r_Y,Z;:wbl=%yt:S;phITALb%yt:C,
R;ph:CD,WZ;::COPYfBlH;psytem,C,D,bz,G,H,I,J,K,L,ct,cN,Q,c&,r_Y,Z;ps:HV,MV,SDak,PPV,WC;:w=ytem,C,D,bz
,G,H,I,J,K,L,ct,cN,Q,c&,r_Y,Z;:m<M:C?D?RgG;ph:CC,C[kYID rkHUMa8FIGURE;:qmSm*ytem,C,D,bz,G,H,I,J,K,L
,ct,cN,Q,c&,r_Y,Z;:hc%qmSm*yt:P;:qmSm*:IC,Pg4aYWC;:n2DJ;ps:CL,COOL,FR&ID,NEWaf,OK,SOS,UP[w$VS,k~DnL
Sbl(gkK,hIK,j+Kjgiw ONElJiw fXnigkiw dEeddFP,t4i8Y P,xVD,HC,HDR,HI-RbRLOSSfDaiV,UHD,VOD;::czK WORKl
H;1F1E6:REGION!p+nG~em,C,D,bz,G,H,I,J,K,L,ct,cN,Q,c&,r_Y,Z;:n2p(HOKA;psou :KOKOag;1F210psCJK UNIF
I%p)-:624B,5B57,53CC;:psou DE;psCJK UNIFI%p)-:4E8C,591A,89E3,5929,4EA4,6620,7121,6599,524D,5F8C,518D
,65B0,521D,7D42,751F,8CA9,58F0,5439,6F14,6295,6355,4E00,4E09,904A,5DE6,4E2D,53F3,6307,8D70,6253,7981
,7A7A,5408,6E80,6709,6708,7533,5272,55B6,914D;1F240:wbl=%CJK UNIFI%p)-:672C,4E09,4E8C,5B89,70B9,6253
,76D7,52DD,6557;1F250php) A:DVANTeqCCEPT;1F260:Rf0EDti:FU,LUaicZXIeca$XI,CAI;1F30arCYCLfXFOGGY,mcU
MbcfFNb(TgKgISamNc]Ei[kKINSamNc]byITYSCAPE a>DUSKamNSETi[BUILDb>S,RAINbb,l>a>Nh4WeKjbVOLCeAcCKY WAY;
:bGdkGLOBbwEUROPE-AFc?aJMEc?AS,ASIA-AUSTRa5A;::GLOBE[MERIDIANS,NEW t1WAX<n= t1j|oUt1WAX<GIBBf1t1Fgnt
1WAN<GIBBf1t1LAST oUt1WAN<n= t1n= MO+NEW ifi=hwj|oUifi=hwLAST oUifi=hwFgnifi=hwSUN[hwGcqb>gIebOT<
Sf<f_MOMET)]DROPLbU_SUN;:_SUNlxk^CLOdIBEHb= CLOdIBEHb= CLOUD[RAIN;:CLOUD[:RerSNOW,h+NfodvNADO;::FOG,
Wb= Bcqp=HOT DOG,TACcLURRITOd]STNUTahEDLfoEdYkaTR&DECIDUf1TR&PALM TR&CACTdSHOT PEPP)TULIPd]RRY BLOS
ScSROSE,HIBISCUSamNFcq)BLOSScSEa&cRMAIZE,Ea&cRRIbeb6B,hIfA CLOV)MAPcjfA,Fa6bLfA,fA FLUTdj<INd=D,cFHR
OcSTOMAdsAUBERGfnGc+bRMEL+WeKMEL+Ta$ERfnLEM+a_ANaSINEAPPckR%APPckkaAPPLbDEa(PEACHd]RRIESgTWBERRY,b3B
URG)ScmE cRPIZZA,MEa>cTBfXPOULTRY LEG,c?E CRACK)c?E g%COOK%RIbebmRY=c?EalEAM<bbL,SPAb0TdobcaZFRENC
H FRIbRROAST%SWEbTPOTAdsDa$O,OD(SUSb7FRI%SHRIMP,FfqCAKE[SWIRL DESb),SfUICE blAMd|V%IbeICE bla7DOUGH
NdTCOOKIbyHOCOLeJeOCa!Y,LOLLIPcWCUSTa*,HONEY POTebRTCAKbxENdreRPOiPFOOD,COOh$bYK=KNIFE,TEACUPgKf2e]L
EagKE BOTTmOCdPWINE hM,COCKf+ hM,dzPh1Dc[K,BEbQMUG,CcnK<BEbQMUGS,BABY BOTgebYK=KNIFE[c!TbxOTTLE[POP
P<CORK,POPCORN,RIBB+Wc+P%Pc=e9BIRTHDAY CAcbJACK-O-cif],CHc]Tcz TR&e)bQCHc]Tcz,FIREWORKS,FIREWORK Sc6
KL)g&+c6dFPOPP)bkFETTI g%dfABAddTR&hc%bXGS,PINE DECORjSp[DOLLSd[P SdxAM)Wb= CHIcAifVIEW<CEREcEY,SCHO
OL SATCHbJb1DUjRCa%e_T[TIP cTf^h)BOUQUEiPFcqERS,cCITARY MEDa4REMb=bQRIBB+oEKEYBOa*[JACKSalUDIO icPHf
XLEVEL SLID)bkdzL KNOBS,BEAM%ASCbM<oEcJbRBEAM%mk<oEcJbRFILM hJS,ADMISiLgcETSd[OUSEL b9SbzERRb?WHEbJR
OLLbQCOAST)FISH<POmOFfricPHfXMOVIE CAMERaLINEcve^PHfXARTIST PALETdhgfHa?eSdRTe9gcbUCLAPPbQjWc8e+<ARd
BVIDEO GAcAhhT HIdcLOT MACHfnBILLIa*S,GAME Db&bbLfoFkCc!Y<Ca*S,oEimigPcjoEfSSagXOPHfXGUIf<oEKEYjWTRU
MPbUVIOLb<oESCOc<RUNNb>d*RT[SeIdiNb?RACQUET=g%SKI=SKI BOcYa~KETBa6=HOOPd]QUER%hESNOWBOa*)RUNN)SURF)S
PORdAMEDa4dzPHY,b9SE RACfoAMEc?a8FOOTg%RUGBY FOOTg%SWIMM)Wj+LIFT)GOLF)RAC<MOdvCYCcks$Cc?KbTBAT=g%VOL
LEYg%FIELD HOCKEY Sgc=g%ICE HOCKEY Sgc=PUbiTABcjdiNb?PADDmOg%SNOW CAPP%kKb<CAMPfoBEACH[UMbcfFBUIL
D<bkSTRUCi2HOUSE BUILDb>S,CITYSCAPE,brEcmT HOUSE BUILDfoCLASSh1BUILDfoDESERT,DESERT ISLexNg$!c6KalAD
IdLHOUSE BUILDfoHOUSE[Ga*(OFFICE BUILDfop[POST OFFIbeEUROPEa8POST OFFIbeHOSPITa4a_K,AUTOMAT%TELLbQMA
CHfnHOTbJLOdWHOTELd^VENIENCE SdvbECHOOL,DEc6TMbOadOc<bWdvY,IZAKAYA cif],p[CASgeEUROPEa8CASge_c7NeB]c
7NeBWAV<_hEWAV<]hEROSETdh]ROSETdhLABbJBADcDTcTRACQUET=SHUTTLECObibb=jQAMPb9A;:EMOJI qiFITZPAggK TYP
E-:1anaw6;::Ra?MOUSE,c3WAf[BUFFAcpCOW,TIG)LEOPa*,RABBb]Ca?mqCROCODIckWb2bENAIL,SNAcbb9SE,Ra7GOATd~b
PcEfvROOST)CHICK(DOG,PIG,BOa(ELEPHeBOCduUSgRALd)LL,BUG,eBHONEYB&LADY BEEgeFfrdzPh1FfrBcqFfrdDgeHATC
H<CHIbiBABY CHIbiFRONT-bW<BABY CHIbiBIRD,PbNUb<KOALaSOODckDROMEDARY CAMbJBACTRffCAMbJDOLPHb<MOUSE hw
COW hwTIGbQhwRABBb[hwCa>hwDRAGcThwSPc2<WHAckb9SE hwcEKEY hwDOG hwPIG hwFROG hwb3Sf[hwWOLF hwBEa&hw
Pa!A hwPIG NOSbDAW Pc[dBCHIPMUNK,e(,Ed6Ea(NOSE,kMTcUdJ_dOy<_hmy<_>y<_^y<FIST%e]?WAV<e]?OK e]?iYS U
P?iYS e2?CLAPP<e]S?iqe]S?CROWN,ntHa?EYEhMbRNECKTb&T-SHIRT,JEANS,Dc=S,KIcEcLIKINI,ntCLOTHbRPURSE,e]Ba
1POUbfcxSaccQa[LEdpaccQfa-HEEL%SHcQntSa!a4ntBOOdBFOOTPc[dBBUST b+SILHOUETTbxUSdAb+SILHOUETTbxOY,GIRL
,M$WOM$FAcCY,cx=WOMa8ome]S,gkMbLome]S,gkWOMbLome]S,POcmE OFFIC)WOcx[BUNNY bGS,BRIDE[VEIL,k1[BLOND h
Pcx[GUA PI MAO,cx[dDB$OLDbQM$OLDbQWOM$BABYd^STRUCi1WORK)Pc[CESS,p[OGc<p[GOBLb<GHOST,BABY a$bJEXTRe
Kc=dy!a5(a5bLcEST)IMP,SKULL,INe+jRDESK k1,GUa*SM$Da9)LIPSgc,NAIL POLfrhvczSeqHAIRCdTa|BbQPOLbEYf&bDI
LL,KIc~h|LOdWky,iFGEM Si4KISS,BOUQUbUCOUPLE[kdWEDDfoBEAT<kdl?kdgke_dBSc6KL<kdGROW<kde_T[jQg>kdkakdYE
LfIkdPURPcjkde_T[RIBB+REVOLV<e_dBkcDECORjSmld(PE[A eZmDpWkzBULB,a$ERnHBOMB,SLEEPb>nHCOLcoIONnHSPLa=<
SWEATnHDROPLbUDa=nHPIcjcRPcVFLEX%BICEPS,DIZZYnHSk0g&+THOUGHT g&+_Fcq)oniwSnHcEEY Ba1mhY EXCHa$E,keDO
LLAR?blDb[Ca*;:a_KfS[:YEN?DOLLAR?EURO?Pf0gG;::cEEY[Wb>S,Cb4T[o9TRbM=YEN?SEa?k1!bjPUT)BRIEFCASE,cDIbt
C,FLOPPY btK,OPTh1btC,DVD,FIcjmwiqFIcjmwPAGE[hdPepbW<dPCALbMa(TbG-OFF CALbMARd[D knCb4T[o9TRbM,Cb4
T[rxTRbM,Ba&Cb4T,CLIPjWf6Pb<k=f6PfmAc8CLIPgTh3RUL)s]RUL)BOOKh_TABS,LEDG)fSg[fSBOOK[DECORATIdWCO
V)mcg[iqg[kag[g>g[Ok&g[BOOKS,NAME BADGbECROLL,MEMO,v|V)PAG)FAX MACHfnSATELLIdgANdiNaSUBLb%ADDREc~LOU
DSf4)bhER<MEGAPHfXc2eQdwY,INeQdwY,PACKeqE-MAILnHINbj<pYENVELOPE[rxjPABOVE;:mcMAILpL:cqER%hEm<bXG;:iq
MAILpL:m<hEcqER%bXG;::POSTeRPOST!fd,NEWSPAP)qhfXqhONE[wJ a>h)VIBRjRMObpqhfWOFF,NO qhONbRANdiNA[a|S,C
AMERaLAMERA[FLeIVIDEO CAMEc)f>VISI+RADIO,VIDEOCASSETTbzILM c$JECdv,PORTABcjSdjEcNRAYbQBEADS,TWIST%wJ
S;:CqaqKS=rZt7g9S:,[n<fWkYY;::Cqan_S=o9t7g9S,u_n_S=o9t7g9S,fIBiENESSnHhVBiENESSnHSf4ER[Ca9ELLg$nFSf
4)Sf4ER[fWSf0jbSf4ER[k~Sf0 WAVbRBATdjY,pWPLUG,vsMAGNIFY<hM,v_MAGNIFY<hM,fG[INK P(mcfG[fvfvfG,iqfG,ba
L,baL[Ca9ELLg$nFBOOKh|cnKnHRADIO BUTT+eM[rZtubM[rZtuON[mvqS[>^tuSOON[s(tudu[o9tuNO fWi( Eb(f=nHKEYCA
P di;:INPUTtijxo>kyS,h(lEkyS,kRS,SYMBOLS,h( kyS;::hApWdvbfWRENbfb3M)NUT=BOLT,HOCHcNISTOL,icSCOPE,f>S
COPbyRYST!Ba6gQiwEDgI[sYp[Slue*BEGINN)dyDe8EMBLbKg<nCBUTT+_Sk9BUTdt;:kw:R%mbg>mbOk&n?g>ml;:lYOk&mll
Ng>n?t[R%qWvhR%qWt[k^R%qWvhk^R%qWtVSHAhlu&t]SHAhlu&n<j7POMM&j7POMMEE[e[-majUj7POMM&oGfBo^LE[k~hkoGi
Eo^LE[k~hkSlue*fMS bgPT)_h(lzkeh(lzCELdplzOMnHDOdWcRPEAbeKAAa^MOSQUbEYNAGOGdJcBORAH[ikBRa9HbRbbL cRH
YGIEIA;:CfG hv:fWkT,gkkT,k~kT,hIkTjgkTgQkTlJkT,j+kTjhkT,f?kT,ELhukT,nhkT,ONEnQdEnQgbEnQe<nQFIV
E-k|ed-k|jinQEb(TnQcIEnQdinQELEVENnQTWELVE-k|;:^Sf4ER:,[fWSf0jb[k~Sf0 WAVES;::BULLfd,BULLfd[Sf0 WAVb
Rf&<baL,g[Ca!ckcxTELPIECE CfG,]SKULL=hcBONbRNO PIRACY,HOLbBa8b+BUSINEc~SUb[LEVITATfoSLEUdkcXSPY,DAR
K SUNhMESlOlO WEB,JOYSgc,Ma8Da9fo>Hewv|V)v|dY[Peq^Hewv|V)_TOUCHi3sa]TOUCHi3sar~cTgfcRMODbKCchSHEL
L qhfXeM cRpYSTAMP%pYENVELOPE[h+NfoFLY<pYc7i[STAMP%pYcnK%PAc8Ch>]f6PIN;:sW:m&Ba6iw P(Fc0TAb+P(PAINTB
RgsCRAYON;::>WRIT<hRnfOK e]?m<e][j_S Sc!YED;:qJ:m<e][j_S Sc!YbHiYS UP?iYS e2?VICdvY hRe][mZj_ EXTbME
D;::m<e][c6T n$kI=R<j_S,_hmqC>Hewh5;:SIDEWAYS :_>v<_^v<]>v<]^qCh5;:]:>y<^qCeMHewh5;:SIDEWAYS :_d
Ov<_hmv<]dOv<]hmqCh5;::]dOy<]hmy<]kdDESKgfbjPUT)KEYBOa*=MOUSE,k~NEdERK%bjPUdjS,PRh7,POCKbTCALCULAdv
,]Ha*d)LL FLOPPY btK,_Ha*d)LL FLOPPY btK,SOFTd)LL FLOPPY btK,TAPE bddyDGE,WIR%KEYjWfWBUTTcTMOUSE,gkB
UTTcTMOUSE,k~BUTTcTMOUSE,dwCKg%fVk1!bjPUT)Ha* btK,Sbl(PRh7 IC+FAX IC+OPTh1btC Ibk;:DOCUMbO[:TEXT,TEX
T=PICdDbDICdDE;:hJ[:PICTUc<TIfCa8X;::]mwmwiqmwCa* kmhjERSd[D FIcjeRFIcjCABINbUj>imj>fS Peqj>fS Pa
ZimfS PeqfS PaZj>DOCUibj>Peqj>PAGbRDOCUibPeqPAGbRWASTEa~KETgR!fS PADgR!CALbMa&PaZDESKdud=DOW,cDIMIZb
BAXIMIZE,kYP,CqaiE=fBo^cjg9S,Ca9ELLjRX,INblASE FONT SIZEnHDEblASE FONT SIZEnHbjPc=SI+fVfvROLLED-dONE
WSPAP)PAGE[n<TEXTalOCK Cb4T,DAGGbQKNIFE,h>Sf4<e^ b+SILHOUETTE;:k~RAYS :jFjUh)iE;::>Sk0l[^Sk0l[gkSk0B
UBBfCk~Sk0BUBBfC>THOUGHT l[^THOUGHT l[>a$bQl[^a$bQl[MOOD BUBBLE;:h+N<MOOD: l[;:l&:pLg&T,m?X,pLm?X
,g?m?X,pLg?m?X;::kzsCl&pLg?bhbiWORLD Ma%Mc0T FUJI,TOKYO TOW)STATUE cRLIBERTYajLHOUETdgcRJAP$MOYa3Gc[
Np=Gc[N<rGSm0e(,rGTbGS cRJOY;:Sm0rG:s6iqkLewSm0e(,iqkLewCfVSWEa?iqkLewTb(TLY-mce(,HAcpfdS;::WINKp=Sm
0rGSm0e(,hvSAVc1<DEcmIf1FOOD,RELIEV%bWE;:Sm0rG:e_T-m[e(amNhMES;aGMIRKp=m3 hwEXPc=SIONfD hwUNAcFoarG
CfVSWEa?c7SIdWhwbkFUSoabkFf0oaKISSp=hvTHROW<A KISS;:KISS<rG:Sm0e(,mce(;:rGSTUCK-f2TcUUE:,=WINK<Ed6=
Tb(TLY-mce(;::btAPiwoaWORRIoaa$RY hwPc2p=CRYp=c8SEdYp=rGLOOK cRdyUMPH,btAPoRBUT RELIEVoahL<rGs6a$UIS
HoaFbGFUL hwWbGY hwSLEEPY hwTIRoaGRIMACp=LOUDcsCRYp=rGs6HUSHoarGiqkLewCfVSWEa?hvSblAM<b+FEa(ASdtIS
HoaFLUSHoaSLEEPp=DIZZY hwbWEgKf2kMrGMEDh1czK,Gc[N<Ca>rGSm0e(,Ca>rGTbGS cRJOY;:Sm0Ca>rG:s6e_T-m[e(;::
Ca>rGWRY SMIckKISS<Ca>rGmce(,Pc2<Ca>hwCRY<Ca>hwWbGY Ca>hwSh+cshLp=Sh+csScCp=UPSIDE-hmbWE;:rG:ROLL<e(
,NO GOOD GESTUc<OK GESdDE;::k1 bb<DEEPLYahE-NO-EVIL cEfve_-NO-EVIL cEfvSf4-NO-EVIL cEfvHAPPY k1 RAI
S<fWe];:k1 :RAIS<BOdke]S b+CELEBRjShLfoi=Pc2p=i=FOLD%e]S;::s2qCfAtmqCfAybfAtlqCfA;:nf:s2qCfAtmqCf
AybfAtlqCfA;::s2qCq5tmqCq5ybq5tlqCq5;lU:s2qCq5tmqCq5ybq5tlqCq5;::s2qCBUDtmqCBUDybBUDtlqCBUD;lU:s2qCB
UDtmqCBUDybBUDtlqCBUD;:HOLfIQUILTnCoO:, b+g<i|E;:SOLID QUILTnCoO:, b+g<i|E;tof(bUo9f(bUs(f(bUrxf(b
Um?p~bTqvkem?p~bTqvp~iqbTqvkep~iqbTqvkejLewqvSWeHjLewoO;:SANS-SERIF ke:|nfzH|zHfI|j3iCqS oO;:lUh7RO
BeyoOagNS-SERIF h7ROBeyqvhSthh7ROBeyqvtbSm6tbwIbhCKbQjWoWbhCKbQjWf(bUHEcmOPT)STEAM LObjOTIdXRAILWA
Y Ca(fa-SPE%TRerfa-SPE%TRpyBULLbTNOSE,TRerMETc^kzRAILaljSTRa7dwM Ca(BdSqrBdSdzLLEYBdSBUSadcWcDIBdSAM
BULg8FIRE bNfnPOcmE Ca(qrPOcmE Ca(TAXI,qrTAXI,AUTOMOBIckqrAUTOMOBIckREblg$!VEHICckbqIi)TRUbiARdpULA
T%LORRY,dwCdv,cEORAIL,kKb+RAILWAYamSc7iLRAILWAY,kKb+CABLEWAY,AERI!dwMWAYeaP,ROWBOAdcPEEDBOa?sNdwF
Fb%kAq4dwFFb%h+d^STRUCgd?POcmE bdS REVOLV<kAs]bXG cTPOST,DOOR,NO bORY?SMOKb>nHNO SMOKb>nHPUT fEbQb+
IdAc!CEnHDO fRfEERnHPOTABcjWeKnHNON-POTABcjWeKnHBICYCLbCO BICYCfCBICYCcoT,kKb+BICYCcoT,PEDESdy$NO PE
DESdyANS,CHILDRbLhcfocBSnHWOcBSnHc=dzcSBABYnHTOILbUWAf[eTETebW)BAdlBa[TUB,PASSPORT bkdzL,CUSTOMS,BAG
GepCLAIM,>LUGGeqo6[o0j6S,c$HIBITED?n<INe+jRSc1CbxOYSnHGIRLSnHCOUCH=chP,SLEEP<ACbjMODg$ebPP<BAGS,baLH
OP baL,BbHk5cRWORSHIP,OCTAGONALgGebPP<dzLLEYalUPaSAGObnHb=U TEMPckHdTELEVAdv;1F6DC::WIREfD,c!YGk=SL
IbpWHEbJR<BUOY,b3MER=WRENCHeaELD,OIL DRdLMOdvWAY,RAILWAY dwbiMOTcXBOAT;:t[:cCITARY l5E,l5ElNl5E;:lYl
5Ed_dnAST-qCl5E;:l5bwDEc6TUc<eGVb>;1F6F0aGATELLIdhqrFIRE bNfnDIESEL LObjOTIVbDASSbNERd*P,SCOOT)MOTcX
SCOOT)CANObELbHrLC)SKATEjWAUdrc?KSHAW,PICKdOTRUbiROLLbQSKATE;1F7aqALbhMtKe*:QUINTESSENbeAIR,hAj*WAT)
AQUAbYTIS,AQUA REGIaJQUA REGIAanAQUA VITa0AQUA VITAEanVINEGa(VINEGARanVINEGAR-3amLFdQPHILOSOPb6S SUL
FdQ]SULFdQMERbmYd<LIMATbBERbmYd<LIMATEanMERbmYd<LIMATE-3,CINNAa|agLdbITc<VIdyOL,VIdyOLanf( SALT,f( S
ALTanGOLDajLV)IRcTOc<IRcTOREanCROCdRcRIR+s%IR+COPPbQOc<IRON-COPPbQORbEq1cRCOPP)CROCdRcRCOPP)CROCdRcR
COPc8anCOPPbQl7IATEagLiPCOPPbQl7IATbEq1cRSALiPCOPP)dYDIGc],Tb+Oc<LEAD Oc<l7Y ORbEq1cRl7YagLiPl7Y,Sq
1cRSALiPl7Y,VINEGa&cRl7Y,s%l7Y,s%l7YanREGULdSREGULUS-av4,ALKAclALKa5ancyCASITEagL-AMcEIAC,ARSENIC,RE
ALGa(REALGARanAURIPIGibBISMUdkOc<TARf<TARTARanQUICK LIMbxORAX,BORAXanBORAX-3,ALdLOILgRb]TINCdDbAdLWA
X,POWD)CALX,TUTTY,CAPUT MORTUdLSCEPf[cRJOVbyADUCEdSdyDbOgSR%dyDe9LODESi4SOa%URfnb9SE Dgoa=bRPOT a=bR
BRIbiPOWbr%BRIbiAcwGAMgTTdKSUc8gJTUMgTTdKSUc8gJTUM-2eeLIMjSPRECIPITAdhbtdqL,btSOLdXbtSOLVEanPURIFY,P
UdxbWi2CRUCIBLbyRUCIBLE-av5,ALEMBIC,BAdkcRcyY,BAdkcRVAPc1S,REdvT,HOdQNh4DAY-Nh4cEdlhQDRa7hQc0CE;::L
OiPbYTUNE,OCCULTjSLUNa&ECLIPSE;1F77B::HAUMEA,MAKEMAKbAOcHfYQUAOa(ORCUS;:]:vswzqWt[wzqWv_wzqWvhwzqW
Sh+LYi_ly;::mXePu&ePu&hSu&tb_mbrFhSu&_mawqi_nxk=Ta+bU]TINYnD]Sh+LYu$h+u(kHu(ePu(hSu(i)hSu(rFhSjci|E;
:_Sk9wq :dYYu$kHi|E;:n2Ta+bU]TINY n?]i)k^n?]kHlEml;:_ml wq :i)k^n?mXml;::ml Ta+bU]TINY oB]i)k^oB]kHl
EoB_LOZbNE wqlEoBTHb+tFkztFmXtFg?tFi)g?tFtbtFrFketFTHb+Sl6kzSl6mXSl6g?Sl6keSl6tbSl6rFkeSl6kzyqm
Xyqg?yqkeyqtbyqrFkeyqkzSxTmXSxTg?SxTkeSxTtbSxTrFkeSxTkzyKmXyKg?yKkeyKtbyKkzk~x0mXk~x0k~x0mXk~oRPINWh
TSf<kzhIx0mXhIx0hIx0mXuyPINWhTSf<oWkzuyPINWhTSf<kzhCx0kehCx0mXSIX x0keSIX x0SIX oRPINWhTSf<mXj+x
0kej+x0tbj+x0kej+oRPINWhTSf<kznhx0kenhx0kenhoRPINWhTSf<n<qWw=qWj1DnDw=Sk!ikoR_STAR;1F7E0:kw:Ok&mbYE
LcqnxkambPURPLEnxBROWNnxREDnDg>Sk!Ok&Sk!YELcqnDkaSk!PURPLEnDBROWNi|E;1F7F0:lUsF;1F800tow3x5o9w3x5s(w
3x5rxw3x5yumXx5x6mXx5yTmXx5ypmXx5yukwx5x6kwx5yTkwx5ypkwqVpF;1F810tow3yLo9w3yLs(w3yLrxw3yLyuyLx6yLyTy
Lype$LeK!pF;lU:yuyLx6yLyTyLypyLyukwyLx6kwyLyTkwyLypkwe$LeK!pF;::z4Ng9lBz0Ng9lBz6Ng9lBz3Ng9lBz4kHlBz
0kHlBz6kHlBz3kHlBz4ePlBz0ePlBz6ePlBz3ePlBz4tIz0tIz6tIz3tIz4i)tIz0i)tIz6i)tIz3i)tIrZtCvatCw7tCwntCwo
Sm*vaSm*w7Sm*wnSm*wosEvasEw7sEwnsEwokesEvakesEw7kesEwnkesEwokevakew7kewnkeg9;1F85aroxSthjQlmSthjQqK
SthjQn_Sthg9d_m~thg9d_m|thjQSOUm|thjQSOUm~thjQ>iEthjQnnthg9;1F860:WIDE-e^%:rZsTvasTw7sTwnsTw6sTw5sTw
8sTw9sTwog(vag(w7g(wng(w6g(w5g(w8g(w9g(wot0vat0w7t0wnt0w6t0w5t0w8t0w9t0wosMvasMw7sMwnsMw6sMw5sMw8sMw
9sMwowRvawRw7wRwnwRw6wRw5wRw8wRw9wRg9;1F890tox5o9x5s(x5rxx5oxz8lmz8qKz8n_z8yuoGiRx6oGiRyToGiRypo
Gf+;lUg9d(FT WIDdk:fXq0S,oL,fWf|D;tojX-SHAD%_w7jXd(D%_wodud(D%_w7dud(D%_woh*SHAD%_w7k+SHAD%_wok+SHA
D%_w7h*SHAD%_woeM-dqTEDd(hl _w7eM-dqTEDd(hl _woFRONT-dqTEDd(hl _w7FRONT-dqTEDd(hl _g9;:_g9d(FT WIDdk
:fXq0S;1F8Barv2o9THbLNORm~,v2s(dnNd&V<SOUm~,yTkChXrx]pEa|;:qmSm*:rZvaw7wng9;::s2v1s1u~tlu~tmu~;1F8C
0tojPhKrxw7jPhKrxg9;1F900phj7e+EE:[hIhk[gkhk;:rYj1:[hIhk[k~hk[gkhkq*;:n_ bW<:hXoGhXfcq*oGfc[bv;::PIN
CH%j_S,_kdBROWN kdPINCH<hRZIPc8-kLhwcEEY-kLhwrGf_MOMET)NERD hwTHINKp=rGe^-Ba!eqROBOT hwHUGGp=iKc
Rf^fdS,Ca6 ME hRm<eM cRhRtSFIST,uUFIST,e]SHAcbe][h5=mZj_S hcbHI LOdWYOU e]?rGCOWBOY Ha?CcqN hwNAUSEA
ToaROLL<cTf^hG LAUGHfoDROOLp=LYp=hvPALM,SNEEZp=rGfWEYEBROW RAISED;:Gc[N<rG:STa&e(,fWfzE=fWk^EYE;::r
Gj_ Cf3<mch>SERIf1bWEgKlHS Cf3<kMSm0rGSm0e(=HewCf3<kMrGiqkLVOMITb>ebCK%rGEXPLOD<e^,PREGNANT WOM$bcAS
T-FEEDfoPALMS dOTOGEf_ahLFIbDc[CbBa8b+TUXEbuMOf_ CHc]TczaiRUG,k1 DO<bdTWHEbJJUGGLfoFENC)MObrN PbOa[
L+Wf%LERS,WAf[POcpe]g%DIV<czK,WILT%Fcq)DRUM[DRUMSgcS,CcnK<hMbRTUMBLbQhM,SPO+GO!NbURIFckj|k5MEDALnLk5
MEDa4k_k5MEDa4BOX<GLOdXcyTI!ARdAUNIe+,bmL<Si4LAhcE Sgc=g%SOFTg%FLY<btC,CROISSeBAVOCAbuCUCUMB)BAC+POT
ATOd[RcYBAGUETdgbcaZkaSALADd|LfIPa8cRFOODalUFF%bXTbcaZEGG,hM cRcCK,PEANUdBKIWIFRUb]Pa9AKbRDUMPLfobYT
UNE COOKb&TAKEf2eRCHOPSgcS,bbL[SPO+CUPgKgJW,CObkdTBROCCOclPIbDRETZbJCUiPMEAdca!WIbfCANN%FOOD,fAY GR
E(Ma$O,ifCAKbxAGbJSm0rGSm0e(=k~e_dBYAWNp=Sm0rGTEa(rGc6dFfd=c6dFHa?rGUNhue(=i<kMf3HEAToaFREEZp=cIb^bt
GUISoahvomeM TbGS,rGPLEAD<e(agc>LAB COa?GOGGfCHIK<BOcYbXTd+byRaYLIcThwSCORPI+dDfvUNICORN hwEAGckDUbi
BATd|RK,OWL,FOX hwBUTdjFLY,DE)GORIfFLIZa*,RHINOCEROSaiRIMP,SQUID,GIRAFFE hwZEBc(hwHEDGEHOGagUROPOD,
T-REX,Cc?KbUKa$ARcVLchaSEACObiHIPPOPOTAMdSc6RcYRACCO+LOBST)MOSQUIdsicBbxADG)SW$MAMMOdlDODcOLOdlOTT)O
Ra$UT$SKUNK,Fchb>O,OYST)BEAV)BIS+SEa4GUfhDOG,c$B<CANE;:EMOJI bjPONe8:R%hPj8hPBALD,_HAIR;::BfXLEG,FOc
YTOOTHjmb6OjmVILLerSAFEdFVEST,bG[e_<AID,MOdvIZ%WHEELChPcxU!WHEELChPMEbgNh1ARM,MEbgNh1LEGd]ESE WEDGby
UPCAKEagLTd(K)BEdYepeRGARcm,ONI+FALAFbJWAFFLbxUTT)MeJDc[K,ICE CUBbxUBBcjTEA,dzLLala!<k1,KNEEL<k1,DEA
F k1,rGcEOCckADULT,CHILD,OLDbQADULT,BEa*%k1;:k1lxe^SbdF,INadEAMY ROcSCLIMBfob+LOTdRoS;::MeqFAIRY,VAM
PIRbBERk1,ELF,GENIbFOMBIbxRerOk&kdBILL%Ca%SbdF,GLOVbRCOAdcOCKS,R%GIFT pYFIRECRACK)JIGSAW PUZZcjk2TES
T TUBbDEdy hiDNA |HELIX,bjPASS,ABACdSFIRE EXTb>UISH)TOOLeRBRIbiMAGNbULUGGeqLOi1BOTgeSPOOL cRgbaZBa
6 cRYARNagFEdFPb<TEDDY BEa(BROcSa~KbUROLL cRPAP)Ba&cRSOa%SPcUE,RECEIPdbAZa&AMULET;:NEt^:h$k%iGl+mKPA
WN;:uimJoYbYTY-hChfbR]j0mJoYbYTY-hChfbRNEt^mJoYbYTY-hChfES;ui:K<y6k$y6ROOK y6BISHOP y6mJy6PAWN x^ES;
:]j0:K<y6k$y6ROOK y6BISHOP y6mJy6PAWN x^ES;:NEt^:K<y6k$y6ROOK y6BISHOP y6mJy6PAWN x^ES;:uimJoYt4k|-h
ChfbR]j0mJoYt4k|-hChfbRNEt^mJoYt4k|-hChfES;uinf:h$k%iGl+mKPAWN;:]j0nf:h$k%iGl+mKPAWN;:NEt^nf:h$k%i
Gl+mKPAWN;:uimJoYgkonnihChfbR]j0mJoYgkonnihChfbRNEt^mJoYgkonnihChfES;ui:K<z2k$z2ROOK z2BISHOP z2mJz2
PAWN oYgkmCabVENdFhfES;:]j0:K<z2k$z2ROOK z2BISHOP z2mJz2PAWN oYgkmCabVENdFhfES;:NEt^:K<z2k$z2ROOK z2
BISHOP z2mJz2PAWN oYgkmCabVENdFhfES;:uimJoYk~onFIFf= hfbR]j0mJoYk~onFIFf= hfbRNEt^mJoYk~onFIFf= hfb
R_j0e$HOPP)]j0e$HOPP)NEt^e$HOPP)_j0e$HOPPbQy6]j0e$HOPPbQy6NEt^e$HOPPbQx^ES;uiKNb(T-:k%iGBISHOP;:]j0K
Nb(T-:k%iGBISHOP;1FA60:XIa$QI R%:GENERa4h^Rb<ELEPHeBb9SbyHa<cYCANN+SOLDIER;:XIa$QI ]:GENERa4h^Rb<ELE
PHeBb9SbyHa<cYCANN+SOLDIER;1FA7arBa6ETd+bRONE-PIECE SWIMSUb]BRIEFSebRdBTHcU Sa!a4kzg>kdGREY kdPIN
K kdDROP cRBLOOD,ADHESIdWBa!eqSTETHOSCOPE,X-RAY,CRUTCH;1FA8arYO-d8KITbDa)CHUTbxOOMERezMAGb%WexPINATa
QEST<DOLLS,Ma)CAS,FLUdhb4P;1FA8FaGHOVbJf&%PcibUChPRAZOR,AXE,DIYA chP,a_JO,cCITARY HELMbUACCORDI+h?D
RdLCOINd[PbORY SAW,SblWDRIV)LADD)hXMIRROR,Wb=OW,PLdN)SEW<NEEDckKNcYBUCKbUMOUSE TRa%TOOTHBRgse^Si4c!
Ca*,f(,MIRRcXg%IDe!FICjRCa*,fIBATdjY,b3SaNOLD<HewF$HAIR PIbiKe]aNLY,WORM,BEEgeCOCKROAbfPOTT%PLeBWOOD
,FEa[)LOTdSCORa4j>NESdbEST[EGGS,HYACINdlJELLYFfrWfofAfD TR&GOOSE,ANATOMh1kdLdNS,PEOPcjHUGGfoPREGNAN
T M$PREGNANT k1,k1[CROWN,j_Pc[T;1bWE::MOOSE,DONfvBLUEBERRIbRbaL PEPP)OLIdXbXTbcaZTAcwbzONDdJTEAPcYPc
1<LIQUID,BEANS,Ja(Gb>bQROcYPEA POD,ROOT VEGETABLE;1FADFaGc!TT)MELTp=SALUTp=rGiqe(=e]i[kMrGPEEK<Ed6r
GpQkMmnh<hwBIT<LIP,BUBBLESd|Kp=rGBAGS i( e(;1FAFare][kmj_=lchcbHs(hRrZhRPALM hmhRPALM dOhRkmqCa>f^VI
EW)kce]S,rZf6<hRs(f6<e];1FBaqg=abXdfz(,5,15,25ae5,35,235ae35,45,145,245ae45,345d>5d?5gL5,6,16,26ae6,
36,136,236ae36,46,146ae46,346d>6d?6gL6,56,156,256ae56,ax,1ax,2axaeax,ay,1ay,2ayaeay,3ayjejf;:sWyjyx
:l|iE;:sWyk:yxl|yxk*vqg^E;:tVykyy:l|iE;:tVyj:yyl|yyk*vrl|yyz?wpuMvruMwpiE;:sWyk:wpuMvrz?yGyxmZiE;
:t]yjyx:l|iE;:t]yk:yxl|yxk*vqg^E;:taykyy:l|iE;:tayj:yyl|yyk*vrl|yyz?wpuMvruMwpiE;:t]yk:wpuMvrz?yGyxm
ZiE;::llew^rezS>reew^zSllew>rezS>rfew^zS>s]xvlls]xv^s]xvkCs]xvq4wG-av7,sNwG-av7,>zk>rfwG,^rfwG
,^zkllzksNwG-1358;:ll:xvk~vjhCvjv~g=lJj<S g=;::^xv^k~vj^hCvj^v~jV^ShuvjrYuLs&uLs~uLsVuLosuLs~g==s
VosuLs~oskHd(DE=sVg=;1FB94::rYoskHd(DE=s&g=d]sDhyosbhsDhykesNhyllvq^hyllv^>hyllres]hQjVfB=^s]hQj
Vtas]uLt]s]uLtVs]uLsWs]kHd(DE;u>kzpQ:llrmmZh)llrmuMyxl|zCllrmyxl|llrmzCyxrmuMyyrmmZiE;u>kzv5rmmZ:f
B=zCiE=yxl|v^rmmZh)vqrmmZiE;u>kz:pQyyrmzCpQmZ^drllrmyxl|pQn?rR[vGE;::pF-m[iw)ossCrYRUNN<M$s&RUNN<
M$osypTIP r0rZjPrfzkwJ rfzkrxg9=^wG,o9g9=^wG,rYmws&mwVOID%tF^fZi|%bv;:qmpQ:hc,zCml;::_keSALTIRE[o0j6
S,>k__^v<mZk__^v<^k__^v<qmSm*uT,So4URE;:So4URElxARMS RAISbHLEAN<h)LEAN<k*i=Dc=S;::_t[bhVR+_j7h|m<k^f
BvO,]k^t[bhVR+>q0S jV>fWk_g=;u>kzpQ:mZv^h)t]drmZh)tadruMyxk*llvql|llyGllv^l|llrmkCh)tadrmZwpk*t]drm
ZyGsWdrmZyGtadrmZrmkCh)llvqwpk*t]dryxk*kCvryGtadrmZv^fB;::gfrWsV_mb^rW>e[u&l<rWs~_mb>rW^e[u&lll_xvk
Cl_xvmZ>xvmZ^xvgfrWkCxn^rW>xnl<rWllxn>rW^xngf^rWsWoU]mbl<>rWt]oU]mbl<^rWtaoU]mbgf>rWtVoU]j1;:SEGMb
O%mmi?y+x2E;E0ao::La$UepTAG;Eap0:TAGaaPAbew$v[kR?DOLLAR?c8CbO?jLexszzZpHf5?j4ki-ie,rMSOLIDUS;:TA
G mmi?y+x2E;:TAG :hagPj2p|?sF,tE?uT,bjMERCI!AT;:TAG ytem,C,D,bz,G,H,I,J,K,L,ct,cN,Q,c&,r_Y,Z;:TAG :f
BvO,wIiEvO,xkqeb1dWjG;:TAG xVem,C,D,bz,G,H,I,J,K,L,ct,cN,Q,c&,r_Y,Z;:TAG :>j8n&vF^j8n&dqDE;::Ca9EL T
AG;E01aqwPOR-:1aC56,5aC256;"

end Callwise.CharName

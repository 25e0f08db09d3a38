/-!
# Names of characters in systems of notation

The code points 1B000 to 1D7FF: historic kana, shorthand, the signs of old computers, music,
counting rods and the mathematical alphabets.
-/

namespace Callwise.CharName

/-- The table of these names, in the order of the code points. -/
def notations : String := "
1B0aqq^~n9E,p(~n9YE;:HbOAIGANAo?AjnA-d2IjoUef5,E-av6,OjnKAef11,KA-cbKIef8,KUjqKEjpKOjnKO-KIagef8ajjp
SUef8ahef5,SOjqTAjoTIjqTUjoTU-dsTEef9,TOjpTO-RaQAef9,NIjqNI-TbCUjnNEjpNE-KcMOef5,HAef11,HIjqHUjnHEjq
HOef8,MAjqMIjqMUjoME-1,MEanME-cvMOjpYAef5,YA-d8YUjoYOjpRAjoRIjqRUjpREjoROjpWAef5,WIef5,WEjoWOjqN-MU-
MO-1,N-MU-MO-2;::p(~n9WU;q^~n9:d7d6WU;1B132:p(vvKO;1B150:p(vvd1d0WO;1B155q^vvKO;1B164q^vvd1d0WcM;1B
CaqDUPLOYswH,X,P,T,F,K,L,B,D,V,G,R,P N,D S,F N,K M,R S,THlMDH,DH,KKlMJ,HL,LH,RH,ct,J,S,M N,N M,J M,
S J,Mq*Nq*Jq*J[e1 INSIDE=jFSq*S[rwM S,N S,J S,S S,M N S,N M S,J M S,S J S,J Sq*J N,J N S,S dc T c& P
,S P R,T S,T R S,W,WH,W c& N,S M,K R S,G R S,S K,S K R,AlMOW,OaR,AcZI,E,IElKI,UI,EElMbIROcxffIlM&h?I
,d6U,EU,XW,U N,h?U,ROcxffdHHlMU,OOH,OW,cZdZd2d1WEI,WOW,NAS!dGAS!cMAS!b$AS!A,c8Nb+$c8Nb+AMlMENlMANl
M+o)M;1BC70:DUPLOYa8AFFIX :>rRnzfNrRnz^rRnzfIo$nzfNo$nzhVo$nzpISECeBpIvtSECeBpITa$e9pIiRpIE hXpII h
XpITa$e8fc;1BC80:DUPLOYa8AFFIX hV:jITh3jIj~h?j~e0mbh=WAdXo$;1BC90:DUPLOYa8AFFIX fI:jITh3jIj~h?j~e
0mbh=WAdXo$,g9;1BC9C:DUPLOd5lwOgKlzTHICK ~SELECdv,|h|t%CHINOOK p8;:Sb9THewe+a>:~kYPd^TINU<kYP,e2adbP
UPadEP;1CC0art[GO-caT,v_GO-caT,vsSo4Uc<v_So4Uc<vhSo4Uc<kCsNRULERo]^q4RULERo]tVRULERo]ANdicGsNc=I
Sdvo]q4c=ISdvo]>k_b=UCdv,mZk_b=UCdv,^k_b=UCdv,vsDIObpv_DIODbCPN i6ISdv,PNP i6ISdv,RECEPTACcksNCAPAC
Idv,q4CAPACIdv;:LOGb%GeJ:OR,exp>INPUdBp>c2PdTBUFF)BUFFER[p>INPUT;u>kz:sNrfk*sNrek*gfrfh)l<refB;u>|v5
:v^h)vqiE;:SEPa)T%g= f8c*z(;:ll:>nglynI>nglynI^ngnx^ngnxmZ>ngnx>m+nx^m+nxmZ^ngly;:kC:m
Z>ngnx>m+nx^m+nxmZ^ngnx>nglynI>nglynI^ngnx^ngly;aGc6SE sNhySc6SE q4hyORTHOGON!hcHATCH hypQhcHATCH hy
DENSE q4hyDENSE sNFILL;:SPECKcjFILL hJ-:1,2;::tSa~SINbUuUa~SINET;:rLCERgK: BEAMS,f2BEAMS;:a5bL:cE
Sf[iqJAWS,cESf[mcJAWS,SQUID iqTbOACfCSQUID mcTbOACfCCRABadEPP<k*CRABadEPP<fBlO CROUCfblO SPREAD;:a5b
LcESdjadEP-:1,2;::vsf(ETd*P,t[f(ETd*P,v_f(ETd*P,vhf(ETd*P;:qU:tSROBcYv8ROBcYuUROBOT;:tw:tSROBcYv8RO
BcYuUROBOT;::vstvt[tvv_tvvhtvcFHROOM CLOdIvsRIFckt[RIFckv_RIFckvhRIFLE;:j+RAYS :INWa*,c2Wa*;
:]kwmaie :>m+nA,llm+nA,^m+nA,kCm+nA;::]m3 hwh*zWUP-zWk+zWe2-zWh*z1UP-z1k+z1e2-z1vsENERGYjbt[ENERG
Yjbv_ENERGYjbvhENERGY WAVE;n2SPIR!hK:gfh)gfk*l<k*l<fB;:SdyP%:vsqWt[qWv_qWvho6;::q4LADD)sNLADD)_s
Wiw)_tViw)gkf&S ALb)%rRLY;n2hIj6aaALTIRbRn>S,]o6S;:n2Ac8TUc<os]n?>rfwG wqu$osg<u$vEi=hIs?sNcnE[hIs?t
SFfruUFfrtSFISH[s6uUFISH[s6bXPP<BIRD,vss$t[s$v_s$vhs$sNs$q4s$q4GO-caT,vsdfK,v_dfK,vsf(bTBOOST)v_f(bT
BOOST)vsROLLbQCOASf[Ca(v_ROLLbQCOASf[Ca(rYrLC)s&rLC)taqFrGiqe(,t]qFrGiqe(,taqFrGmce(,t]qFrGmce(;:kC
:>qFScCp=^qFScCp=>qFm3 hw^qFm3 hw>qFrGs6^qFrGs6>qFhLp=^qFhL<bWE;::tax[t]x[sWx[tVx[tay4t]y4sWy4tVy
4zhh$zoh$zgh$znh$zhk%zok%zgk%znk%zhiGzoiGzgiGzniGzhl+zol+zgl+znl+zhmKzomKzgmKznmKzhPAWN,zoPAWN,zgPAW
N,znPAWN,tay~t]y~sWy~tVqFSTa!<KNb(T;:qxytem,C,D,bz,G,H,I,J,K,L,ct,cN,Q,c&,r_Y,Z;:qxmmi?y+x2E;1C
Daqg= OCdfT-:3,23ae3,4,14ae4,34d>d?,5,15,25ae5,135,235ae35,45,145,245ae45,345d>5d?5gL5,6,16,26ae6,36
,136,236ae36,146,246ae46,346d>6d?6gL6,56,156,256ae56,ax,1ax,2axaeax,ay,1ay,2ayaeay,3ayjejf,1aBeh7,3a
A3aB3eh37,4aA4aB4eh4ei7d>7d?7gLaA5aB5eh57,35aB35eh357,45aA45eh45ei57d>57d?57,6aA6aB6eh67,36aA36aB3
6eh367,46aA46aB46eh46ei67d>67d?67gL67,56aA56aB56eh567,axaAaxaBaxehax7,ayaAayaBayehayei567je7jf7gL56a
AaFel8,3aE3aF3el38,4aE4aF4el48,348d>8d?jt8,5aE5aF5el58,35aE35aF35el358,45aE45aF45el458,3458d>58d?5jt
5aE6aF6el68,36aF36el368,46aE46el468,3468d>68d?68,56aE56aF56el568,axaEaxaFaxelax8,ayaEayaFayelay8,3ay
8je8jfjt56aEekgWaD3ej3ek3gW3aD4ej4ek4gW4aD3478d>78d?7jtaD5ej5ek5gW5aD35ej35ek35gW35aD45ej45ek45gW45a
D34578d>578d?57jt5aD6ej6ek6gW6aD36ej36ek36gW36aD46ej46ek46gW46aD34678d>678d?67jt6ej56ek56gW56a
DaxekaxgWaxaDayejaygWay78je78jf78;::qUSTa!<k1,twSTa!<k1,qUuUt)-1,twuUt)-1,qUuUt)antwuUt)anqUtSt)-1
,twtSt)-1,qUtSt)antwtSt)anqUv8RUNN)twv8t)joifcibr;:qUbXIL<ROBOT hJ-:1,2;::vhl5E,vsl5ElNt[l5E,t[FROG
,vhFROG,EXPLOiLhJjn^e[=>e[u&sVrfe[u&EXPLOiLa>b9IZ+s~hSu(sVhSu(hSjcnCwq dYYu$_q4f!sysNeOgf>]vsk^qWFUN
NEL;u>|pQ:sWdrmZyGtadrmZwpiE;::rY_j=E,s&_j=E,rYt>sOs&t>sOsNcnE[gc h|rYsNcnE[k~s?s&sNcnE[k~s?sNcn
E[k~s?sVvEi=k~s?s~vEi=k~s?vEi=k~gc fMS;u>kzu1:gfk*l<k*gfh)l<fB;:kwi9PIECbwtaeFtamglldjcDa4taCROTbf>A
RM,hceOhca|[kCSTbKs~siM,pQkCfBlKlldjcDa4t]eF^ARM,t]CROTbft]j6alEM[^hca|albKv5^rek*v5k*pQkCiElKkCdjc
Da4sWrf>eFl_cRK,sVsiM,s~siWnIcRXnIcRYnIcRZ[hceOm<taeFSTEM[>hceOtVrf^eFv5>refBalEM[>fsTalEM[hceOv5h)k
CdjcDa4sWmgsWeFsWCROTbfhca|[llSTbKsiV,sVsiW,tVeFtVmgtVARC[iRtVCROTCH;:kwi9PIECEadEM-:45d?5,4,34d?gL,
3,23,2ae;:SEPa)T%g=abXdfz(,5,15,25ae5,35,135,235ae35,45,145,245ae45,345d>5d?5gL5,6,16,26ae6,36,136,2
36ae36,46,146,246ae46,346d>6d?6gL6,56,156,256ae56,ax,1ax,2axaeax,ay,1ay,2ayaeay,3ayjejfgL56;:ll:>m
7m_g=nI>m7m_g=nI^m7m_jV^m7m_g=;:llmZ:>m7m_g=nI>m7m_g=nI^m7m_jV^m7m_g=;:kCmZ:>m7m_g=nI>m7m_g=nI^m7m_j
V^m7m_g=;:kC:>m7m_g=nI>m7m_g=nI^m7m_jV^m7m_g=;::s&kCxv^v~kCxv>v~kCxvrYkCxvsV>xvkCv~>xvllv~>xvs~>xvr
Yllxv>v~llxv^v~llxvs&llxvs~^xvllv~^xvkCv~^xvsV^xvsNnvh=KEYHOckfVk1!bjPUdj[cEITcXb+PORdwb[ORIbOjS]^q
VbdET;1CF00q~rokFsKKOo[M oKNIZKOo[M oKTSAddoKsKKO oKNIZKO oKSREDNE oKcwO m) oKm) oKVYSOKO oKcwO x1o
Kx1oKVYSOKO S KHOKHLOM oKsKKOo[M qqNIZKOo[M qqTSAddqqsKKO qqNIZKO qqSREDNE qqcwO m) qqm) qqVYSOK
O qqcwO x1qqx1qqVYSOKO S KHOKHLOM qqTSATAo[M,cwO m)o[MgTNNO cwO m),m)o[M,m)gJNNO,VYSOKOo[M,cwO m)gJN
NO,GORAZDO VYSOKcPEcp+RAVNO,TIccYaKORZAd4UDARKaSODdYTb|LOMftUPihKACHKaWEVOK,SKOa^RAZSEftRYZH cTfB;1C
F30q~rodt!k&kFMRACHNcOVETcpTc=VETLO;q~rokFZAbrZHKaMEMESTVENNY ZAbrZHKaRTSECHKaSODCHa=IbDODCHa=IE[wQC
Ha=KaLHa=KA POLihOBLACHKcOOROCHYA NOZHKaUOCHKaMVOETOCHIE;q~ro:ATTACH<q4OMbUfMd&V%OMbUh_KRYZH,k
Cdt!k&p+;q~PRIZNAK qi:LEVELanLEVEL-3,hhi1FLIP,KRYZH,ROG;1CF50vX :KRYUK,KRYUK TIKHY,Pa)KLb]DVA V bhLN
U,KLYUbfZANOZHEK,SduIghSduITSaI OCHKcSc8EVODb|c8EVODKA r8ihSduITSA[SOROCHYA NOZHKAd]LYUSTKaSALb|lvAY
A;vX GOLUBCHIK :BORZY,TIKHY,MRACHNY,SVETLY,Tc=VETLY;vX VRAKHIYA :c$STAd4MRACHihSo%Tc=o%tQc$STAd4tQMR
ACHihtQSo%tQTc=VETLAYA;vX :|lvAd4qJbhLYUSTb|brBIghKb3IcpCHa=KaSODCHa=IbEp^MRACHihSp^So%Sp^Tc=o%Sp^T
IccYaMEMESTVENNY KLYUbfSp^tQSo%Sp^mIr8ihSp^tQTIccYA;vX Sp^DVOEbhLNAYA :c$STAYaTo%r8ihmIVAYA;vXaamSb
EmSE S lvOY,SmSE ZAKRYTObEmSEo[M,KRYZH,ROG,FITaPOBYLaWMEYghSTATYA;vXadATYAaa lvOY,S kuM,S lvOY I kuM
,S kuM I lvOY,ZAKRYTAYaWAKRYTAYaI lvOY,S ROGcSS DVUMYA lvYMI,S lvOY I PODCHa=IEM;vX :POLKULIZMYalATY
A r8NAYA;vX SdxLA :c$STAd4MRACHcJIccd4kuVAYaSOLUixihixihr8ihmIixihmIr8ihTIccYA PUTihDVOEbhLihDVOEbhL
NOkuVAYaMVOEbhLNOixihDVOEbhLNAYA mIVAYaMVOEbhLNOixNAYA mIVAnuy*nuOixy*nuNAnuOixNAnuOixNAYA[|lvAnuOku
VAnuOkuVAYA ixNAYA;vX :MECHIK,MECHIK ixNq7mIVOq7mIixNq7mIr8NY,SdxLA TRYASOGLASihSdxLA TRYASOixihSdxL
A TRYASOSdxLihOSOKaRSOKaIvHTc=vHKo1aIvHtQSvHtQr8ihSdxLA Ko1A;vX SdxLA Ko1A :ixNAnuy*nuOixy*nuNAnuOix
NAnuOixNAYA[|lvAnuOkuVAnuOkuVAYA ixihTRYASKA;vX :KUFISMaRBLAceDUDaQEMKaSAUK;1D000zc:k8DASEIA,t$OXEI
A tBOXEIA DIPclVAREIA tBVAREIA DIPclKa[ISdoSYRMATIcdPa)KLITIcdYPOKc]IS,YPOKc]b?DIPclKREczdoAPESO tBE
XO tBf>IaPe!h~l9FOS,l9FOS DIPclSYNEVMaUHITaRLIGcTpDGkXpDPSIL+bgcC+Va[Y,IScTpDKe!tXKe!MAddpDSAXIh~P
Ac?H+STAVROS APODEXIaRXEIAI pDVAREIAI pDAPObrtXAPOdnMaPLAScvREVMaSIAStXTINAGMaJNAggHISMAahISMaTYNAGt
XSYNAGcuMETAadAVRcZOYc*IStXdncvLEMOI,Dd8dyaUESSERaPRATIh~APESO EXO fPmypDIMIFTHOc)ljcTpDKATAVA lj+PE
LAST+PiJT+KONTEVMaLb9EVtXc+ISMaSa)KALEStXPa)KLITIKI pDIbgDb<NANaSETASMaPONTEVcuALcpljcTa6OgTGGISh~GR
ONTHISh~IScTfPOLIGcTfPOXEIA fPPETASdoKOUFISMaSETASTOKOUFISMaPRATIMOKOUFISMaSELASTcTfPKe!MAddNEO eA
Ke!cuNEO eAYk8l9FOS fPl9FOI SYNDESMOS fPYPORROI,KRATIMOYPORRO+ELAFR+Cb3IclMIKRcTIS+VAREIA fPPIASmTPi
JTcTfPOcw+eCKENOcvLYGISMaSa)KLITIKI fPPa)KALESmTEdjcTPa)KALESMaPYcocveCKENOKYcocvljcTfPEKSdxPT+SYNA
GmTSYRMaLb9EVmTEPEGERMAahISmTXIRcTKLAScvljOPiJT+PiJTOLYGIScvljOLYGIScvljOPa)KALESMaSiJdua)KALEScvljO
SYNAGMaSiJTOSYNAGMaOORGOSYNdnT+a+OSYNdnT+EdjcTa+OSYNdnT+OYc*ISmTdnMATISMOS ESO,dnMATISMOS EXO,dncuAP
LOdMdnS KAI APOTHbRKATAVAScvbMOFON+YFbLKAdsYFbLeASTAVROS,KLAScueADIPLI pDKRATItXKRATIcuALcpKRATImTAP
ObrmTAPclDIPcldyPcliWPclKORONIS,LEIMcuENOS g_cZLEIMcuDYO g_+LEIMcudycTg_+LEIMcuTESSARcTg_+LEIMcuIMIS
EOS g_cZGkXNEO eAGkXPAf%IGcBcTAc]djaOkXPAf%IGcBcTDEXIaMIGORG+DIGkXPAf%IGcBcTAc]TEc(KAdsDIGkXPAf%IGc
BcTAc]TEc(eADIGkXPAf%IGcBcTDEXIA,dyGORG+a++IMIDIa++DIa+ON;zcAGOGI :POLI a+I,a+OTEc>a+I,MEdyA,MESI,GO
RGI,GORGOTEc>POLI GORGI;zcmVA :c$Tqwa6I c$TqwDEYdjqwa6I DEYdjqwdyTqwdymxiVTqwiVTOS LEGETqwLEGETqwc!G
IOS ICHOS;zc:ISAKIA TELf1ICHIMATOS,l9FOI TELf1ICHIMATOS,FANEROSb?iWmxFANEROSb?cEOmxFANEROSb?DImxmV
A VARYS ICHOS,mVA c$TOVARYS ICHOS,mVA c!GIOS iVTqwGORTHMIKcTN APLOdMGORTHMIKcTN DIPLOdMENARXb?KAI my
VcZIMIFON+IMIFTb9ON;zcmy:ARbgIcTDEYdjOU ICHcZruc5ruNAfOAqwrubsSKLIRcTDIAdtcTbsrucbruZO,ruNI KAdsruN
I eAcwAKr)DImxcwAKr)cEOFONIAS;zc:FHdvaIKLIRr)VASIS,mySKLIRr)SYNAFI,myNENeACHROA ZYGOS,CHROA KLIT+CHR
OaIPATb7myI YFhtiVTIMORI+myENARcEIOS eCFONIA,YFhtdywLdywLiVwLAPLI DYO DODEKATaMIhtcEOGm=TESSEc(DODEK
ATaMIhtDIGm=EX DODEKATaMIhtdyGm=OKdrwrAPLI DYO wrcEOGm=TESSEc(wrDIGm=EX wrdyGm=OKdrDODEKATaOENIKI DI
ESIS,GENIKI YFESIS,pRAPLI MIKc>pRAPLI MEGAclpRDIPclpRdnSEOSajcxSb?dnSEOSajcxSb?dnSEOS btvndnSEO
S Tc]vndnSEOS iWSvnARSEOSajcxSb?ARSEOS btvnARSEOS Tc]vnARSEOS iWSIMcZDIb1McuGG,DIFTOGGOS cZdaGcvn!c
5n!VcZn!bZn!bsn!cbn!ZO,n!NI,Ke!MAddNEO MESO,Ke!cuNEO MESO,Ke!MAddNEO KAdsKe!cuNEO KAdsKLAScuKAdsGkXN
EO KATO;1D100wln0a|h=|a|h=j^a|h=oWj^a|h=mja|h=k]a|h=>f$AT?^f$AT?f$a>hkD!SEGNO,DA CAPOahGNO,CObnf$AT%
FIGUREjnFERh~FERMAddjUbcAdkh|CAESURaKRAben&ONE-h<STAFF,dE-h<STAFF,lbh<STAFF,e<-h<STAFF,FIVE-h<STAF
Fed-h<STAFFed-STR<FRETjWe<-STR<FRETjWGgF,GgFnyALTaOgFnya~SaLgF,FgF,FgFnyALTaNgFnya~SaMRUMgF-1,DRUMg
F-2;1D129wl:igPcjoDf%,|Sb4P,|FLa?hFdPhFhnNAdD!Uc4AdD!e2d|RP UPd|RP hnoUi3Sb4P,oUi3FLa?bjMcTTIMbyUT T
IcAOTTAVA ALTaRTTAVA a~c|QUh6ESIcuALdeQUh6ESIcua~c|ig f%,WHOcjf%,hQf%,oUf%,j< f%edm_f%,k|-SEbkD f%ed
TY-e<dkf%,t4nij< f%,X oH,ivoHnJX oHnOoHjcnOoH g<;wlqVoH :UPjc,dOg<,fBjc,>g<,iEjc,^g<,e2jc,hmg<,dOi
Ejc,dO^g<;wl:ifoHjc,ifoH g<,o6-k=oH e2jc,o6-k=oH hmg<,t9oH,VOID oH,oH g<,NgnoH,CLUSf[oHjc,CLUSf[o
H g<,jZWHOcjimhQimoUimj< fSedm_imk|-SEbkD fSedTY-e<dkimt4nij< fS;wlro:STbKSPRECHGESa$adbKdxMOLOef
3;wl:j_%dxMOLOjnroAUGMbOjRe0robXGef5,jTBEa7e6BEa7jTTb&e6Tb&jTSLdQe6SLdQjTPHRASE,e6PHRASE;wlro:jGalAC
CAdsdiUTOalACCATISSIMO,cyCAdscyCATO-STACCAdsjG-STACCAdsLc1E;wlARPEGGIAdr:dPe2;wlro:DOb]RIP,FLIP,SM
Ea(BbM,|TcUdJneTcUUE;wl:c[bYZa!OeeITcP,PIeAMEZZO,bYTbyc=CENbuDECc=CENbub1CE fSlDb1CE fS NOlDTR,gj
,p>gj,gjlDgj dPoOi~Eef11,HAUPTdaMMbCEBENdaMcAmtdaMcAhfElDrohmbb,rodObb,rob4cEIC,roSNAP PIZZICATcNE
D!h|PED!dOh|hQPED!h|GcoSa!O dPGcoSa!O hni=j_NAILS,DAMP,DAMP a6,MAXIcvLOfQbcVISgPbcVISjcgPbcVb?g<,cD
IcvcDIcug<gPcDIMAjcgPcDIcug<,FUSAjc,FUSA g<,LcUA c8FECddf%,LcUA IMc8FECddf%,bcVb?f%gPbcVb?f%,cD
Icuf%gPcDIcuf%;wlTEMPdRc8FECTdKCdKc$Lg$bwc8FECdeIMc8FECdec8FECddDIcDUgd-1;wlTEMPdRIMc8FECTdKCdKc$
Lg$bwc8FECdeIMc8FECdeIMc8FECddDIcDUgdef3;wl:CROIX,GREGORffCgF,GREGORffFgFnOB,VIRGaSODATdSCLIVIS,SCa!
ICdSCLIMACdSdvCULdSPORf!dSPORf!dRFLEXdSSCa!ICdRFLEXdSdvCULdRc=UPINdSPESd<PUNCTIS;wlKIEVevCgF,mtk
2j^imRECITATIdWh|WHOcjimhQimoUr!hnoUr!dPj< r!hnj< r!dPbXTgG;wl:SOc>KORON;1D200lTVOC!cJg$lH-:as24,5
0..54;lTINSTRUMbO!cJg$lH-:1,2,4,5,7,aEas14,1aC19,2aw2aB9,30,32,3az40,42,43,45,4aC54;sqhN oE:Tc]EcAiW
SEMbDbOASEME;:lToELEIMMA;1D2C0:KAKTOVIK in!:i?z%z[f=;1D2E0:MAYa8in!:i?z%z[f=;1D30arcEkVe*bGTH;:DIGqH
HEAVENcsj*HUMa8j*bGTHcsHEAV(bGTHcsHUM$bGTH;:iWGqHl|FgnmbMIRbHBeG)KEEPb>i_d^TRa<ETY,ASCe9OPoS,BRa9H<
OdTDEFECTIVENEc~cXbtdvi2DIdYGENbeYc2HFULiiINblASE,c7ETRjSREAbfhbCT,omeM,WAITfoFOLcqfoADVg8RELEASE,c=
ISTg8EASE,JOYd^Te!+bMEAVOdQDUTIbRCHa$E,DECISIVEiig?c=OLUi2PACh$LEGI+eTEiiKINSHIP,GAdnf&alRbNdlPURITY
,FULLiic=IDENbeLAW cXMODbJc=PONSbAO<drMEbUENCc0djSalOVbAREATiiENfzEibPATf],RITUa4FkAVASTNEc~cXWAS
Tb>d^STa9Y,MEASUc<Ef]ITY,UNITY,DIcDISHibmckMGUa*EDiiGAf_<b<czSfoACCUMULjSEMbacoHibDOUBT,WATCHajNh$IN
N)DEc6TUc<DARKENfoDIMMfoEXHAUSgdahdYg8SduPeqHa*iij5i2eTURbzAILUc<AGb1VjSbjPLIg8cTf^dYGE,DIFFICULTIbR
LABOUiFFOSTEf&;1D360:Cc0T<ROD UNb[mmy+x2E;:Cc0T<ROD diS mmy+x2E;:tLTg6kFxw,FIVE;:Tg6kFfXFIVE;1D400x
Hn)em,C,D,bz,G,H,I,J,K,L,ct,cN,Q,c&,r_Y,Z;xHk^em,C,D,bz,G,H,I,J,K,L,ct,cN,Q,c&,r_Y,Z;u[ITAcmo>em,C,D
,bz,G,H,I,J,K,L,ct,cN,Q,c&,r_Y,Z;u[uKem,C,D,bz,G;1Dayu[uK:I,J,K,L,ct,cN,Q,c&,r_Y,Z;xHITAcmo>em,C,D
,bz,G,H,I,J,K,L,ct,cN,Q,c&,r_Y,Z;xHuKem,C,D,bz,G,H,I,J,K,L,ct,cN,Q,c&,r_Y,Z;:u[SvcA;1D49Eu[Svc:C,D;1
D4A2:u[SvcG;1D4A5u[Svc:J,K;1D4A9u[Svc:N,cN,Q;1D4AEu[Svc:S,r_Y,Z;u[StAem,C,D;1D4BB:u[StAF;1D4BDu[StA:
H,I,J,K,L,ct;1D4C5u[StA:P,Q,c&,r_Y,Z;xHSvcem,C,D,bz,G,H,I,J,K,L,ct,cN,Q,c&,r_Y,Z;xHStAem,C,D,bz,G,H,
I,J,K,L,ct,cN,Q,c&,r_Y,Z;u[FRAKdDo>em;1D507u[FRAKdDo>:D,bz,G;1D50Du[FRAKdDo>:J,K,L,ct,cN,Q;1D516u[FR
AKdDo>:S,r_Y;1D51Eu[FRAKdDlEem,C,D,bz,G,H,I,J,K,L,ct,cN,Q,c&,r_Y,Z;u[yHem;1D53Bu[yH:D,bz,G;1D540u[yH
:I,J,K,L,M;1D546:u[yHO;1D54Au[yH:S,r_Y;1D552u[uqlEem,C,D,bz,G,H,I,J,K,L,ct,cN,Q,c&,r_Y,Z;xHFRAKd
Do>em,C,D,bz,G,H,I,J,K,L,ct,cN,Q,c&,r_Y,Z;xHFRAKdDlEem,C,D,bz,G,H,I,J,K,L,ct,cN,Q,c&,r_Y,Z;y[n)em,C,
D,bz,G,H,I,J,K,L,ct,cN,Q,c&,r_Y,Z;y[k^em,C,D,bz,G,H,I,J,K,L,ct,cN,Q,c&,r_Y,Z;zFn)em,C,D,bz,G,H,I,J,K
,L,ct,cN,Q,c&,r_Y,Z;zFk^em,C,D,bz,G,H,I,J,K,L,ct,cN,Q,c&,r_Y,Z;y[ITAcmo>em,C,D,bz,G,H,I,J,K,L,ct,cN,
Q,c&,r_Y,Z;y[uKem,C,D,bz,G,H,I,J,K,L,ct,cN,Q,c&,r_Y,Z;zFITAcmo>em,C,D,bz,G,H,I,J,K,L,ct,cN,Q,c&,r_Y,
Z;zFuKem,C,D,bz,G,H,I,J,K,L,ct,cN,Q,c&,r_Y,Z;u[cEOSPACEo>em,C,D,bz,G,H,I,J,K,L,ct,cN,Q,c&,r_Y,Z;u[cE
OSPACElEem,C,D,bz,G,H,I,J,K,L,ct,cN,Q,c&,r_Y,Z;u[uKn^:I,J;1D6A8xHn):jKBETaOAMcvbqdehq+ZEdeEiQEdeh
8b~c5chbnMdGU,XI,OicN,c9Rb8dnTAlHajGMaUa]o8Pb7Cb7PSI,OMEGA;:xHNABLA;xHk^:jKBETaOAMcvbqdehq+ZEdeEiQ
Edeh8b~c5chbnMdGU,XI,OicN,c9Rb8j^SIGMAajGMaUa]o8Pb7Cb7PSI,OMEGA;xH:c6TI!DIFFERmuhqONnHdnTAnHb~PAnHPH
InHRHOnHPIlH;u[ITAcmo>:jKBETaOAMcvbqdehq+ZEdeEiQEdeh8b~c5chbnMdGU,XI,OicN,c9Rb8dnTAlHajGMaUa]o8Pb7Cb
7PSI,OMEGA;:u[ITALb%NABLA;u[uK:jKBETaOAMcvbqdehq+ZEdeEiQEdeh8b~c5chbnMdGU,XI,OicN,c9Rb8j^SIGMAajGMa
Ua]o8Pb7Cb7PSI,OMEGA;u[ITALfgc6TI!DIFFERmuhqONnHdnTAnHb~PAnHPHInHRHOnHPIlH;xHITAcmo>:jKBETaOA
Mcvbqdehq+ZEdeEiQEdeh8b~c5chbnMdGU,XI,OicN,c9Rb8dnTAlHajGMaUa]o8Pb7Cb7PSI,OMEGA;:xHITALb%NABLA;xHuK
:jKBETaOAMcvbqdehq+ZEdeEiQEdeh8b~c5chbnMdGU,XI,OicN,c9Rb8j^SIGMAajGMaUa]o8Pb7Cb7PSI,OMEGA;xHITALfgc6
TI!DIFFERmuhqONnHdnTAnHb~PAnHPHInHRHOnHPIlH;zFn):jKBETaOAMcvbqdehq+ZEdeEiQEdeh8b~c5chbnMdGU,XI,OicN
,c9Rb8dnTAlHajGMaUa]o8Pb7Cb7PSI,OMEGA;:zFNABLA;zFk^:jKBETaOAMcvbqdehq+ZEdeEiQEdeh8b~c5chbnMdGU,XI,
OicN,c9Rb8j^SIGMAajGMaUa]o8Pb7Cb7PSI,OMEGA;zF:c6TI!DIFFERmuhqONnHdnTAnHb~PAnHPHInHRHOnHPIlH;zFIT
Acmo>:jKBETaOAMcvbqdehq+ZEdeEiQEdeh8b~c5chbnMdGU,XI,OicN,c9Rb8dnTAlHajGMaUa]o8Pb7Cb7PSI,OMEGA;:zFITA
Lb%NABLA;zFuK:jKBETaOAMcvbqdehq+ZEdeEiQEdeh8b~c5chbnMdGU,XI,OicN,c9Rb8j^SIGMAajGMaUa]o8Pb7Cb7PSI,OME
GA;zFITALfgc6TI!DIFFERmuhqONnHdnTAnHb~PAnHPHInHRHOnHPIlH;xH:n)hgMAlNhgMA;1D7CExHmmi?y+x2
E;u[uq mmi?y+x2E;y[mmi?y+x2E;zFmmi?y+x2E;u[cEOSPACE mmi?y+x2E;"

end Callwise.CharName

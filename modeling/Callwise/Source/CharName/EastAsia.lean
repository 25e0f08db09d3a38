/-!
# Names of characters in East Asian scripts

The code points 2C00 to A4CF: Glagolitic, Coptic and Tifinagh, then radicals, kana, Bopomofo, the
enclosed letters and months, hexagrams and Yi syllables.
-/

namespace Callwise.CharName

/-- The table of these names, in the order of the code points. -/
def eastAsia : String := "
2CaqGLAGOLIdpwTAZU,BUKY,VEDbALAGOclDOBc^YESdCZHIVEdhDZELcPEMLb^IZb5opIZHe3DJERVI,KAceLJUDIJbBYSLITbC
ASb7ONU,POKOJI,RITSI,SLOVO,TVRIbuUcfFRIdCHEc_OdCPEaizRlOY *YUlNYUSlNYUS[iRz&FIdekpeoTAPIC,dzKUTAda A
,h(eJMYSLITbyAUDeJCHRIVI;:GLAGOLIdpvNAZU,BUKY,VEDbALAGOclDOBc^YESdCZHIVEdhDZELcPEMLb^IZb5opIZHe3DJER
VI,KAceLJUDIJbBYSLITbCASb7ONU,POKOJI,RITSI,SLOVO,TVRIbuUcfFRIdCHEc_OdCPEaizRlOY *YUlNYUSlNYUS[iRz&F
IdekpeoTAPIC,dzKUTAda A,h(eJMYSLITbyAUDeJCHRIVI;yXL[|a|u<L[|a|wiL[mZyzPzpR[xyAzaT[zNHzvHzKKzvKzKZzv
ZzKg7wiM[x=nfw2nfg7u<V[^x=W[xqW[xqV[hdv3hQH;yehQH,f+fD Pb7E[cJbfvBiRO[fIR<INSIDE;zznfE,h(d<StA~J,w
Cn)V;yYS[SWeHiRZ[SWeHf+;piv3ALFvYALFw2VIDvYVIDw2GAMMvYGAMMw2DALDvYDALDw2EIv6EIEwVOUvQOUwiZATvYZATw2H
ATv6HATw!dnTHv6dnTHw!IAUDvYIAUDw2b~vYb~w2LAULvYLAULw2Mv&Mw*Nv&Nw*KSv&KSw*v+w?Pv&Pw*Rv+ROwVIMAvQIMw2T
AUu<TAUwiUvYUw2Fv&Fw*KHv&KHw*PSv&PSw*OOUu<OOUwirtetu<rtetwir% AINy?erv3vdEIv6vdEIw!rtb~vYrtb~w2rt
Nv&rtNw*vdNv&vdNzsOOUy?OOUwVAMPIvQAMPw*hcEDd)v&hcEDd)zsSHEIy?SHEzsbSy?bSwiAKHMIMb%KHEv&AKHMIMb%KH
Ew*rtb9v&rtb9zsb9Iy?b9zsHAy?Hw2L-m[HvYL-m[Hw2r% HEIy?HEzsHATy?HATwir% Ga$IAy?Ga$Iw2r% DJAy?DJw2r%d*M
Ay?SHIMw2r&d*MvYr&d*Mw2r& NGv&r& NGw*r& NYv&r& NYw*r& WAUu<r& WAU;:COPdpnG:Ka3MI RcNI ROalAUROS,TA
U c^KHI ROeaMaIIMA;piv3vdSHEv&vdSHEw*vdGa$IvYvdGa$IA,roNI jFroSPIRITdRASP)roSPIRITdRLENISwiBOHAIRb%K
HEv&BOHAIRb%KHEI;2CF9:COPTb%r& :rMhhT uT,INhhT uT,dYSE hjER;pip6oL,rMMORPHOoAhjER;:GEORGIANvNz_E;2D2
7:GEORGIANvNYN;2D2D:GEORGIANvNAEN;2D30:TIFINAGHo?d4YaYYABH,Ya1YAGHH,BERBbQACADEMY YAJ,YAJ,YaZYADH,YA
DD,YADDH,YEY,YAF,YAK,qYK,YAKHH,Ya2BERBbQACADEMY Ya2qYH,YAHH,YaXYAKH,qYKH,YAQ,qYQ,d7YAZH,AHAGGa&YAZH
,qYZH,Ya4Ya7Y$qYGN,qYNG,Ya%d$Ya(YARR,YAGH,qYGH,AYbQYAGH,YAS,YASS,YeIYa?YAdlYAbfYATT,YAV,YAW,YAY,YAZ,
TAWELLEMbTYAZ,YAZZ,d6YO;2D6F:TIFINAGH :wCLABIa5Zrjahm$ fM;2D7bVTIFINAGH rqfsER;xF:LOA,MOA,ROaTOAebaK
OaUOaLOaQOaQYOA,ohOaWOaMOenOA,JOaUHOaLHOaSHOaSOaOGWaOGd1GGW&GGWE;2DA0xFSSaHU,I,aX&E,O;2DA8xFCCaHU,I
,aX&E,O;2DB0xFZZaHU,I,aX&E,O;2DB8xFCCHaHU,I,aX&E,O;2DC0xFQYaHU,I,aX&E,O;2DC8xFKYaHU,I,aX&E,O;2DD0xFX
YaHU,I,aX&E,O;2DD8xFGYaHU,I,aX&E,O;2DE0sqj!sPBE,VbAb5DbFHbFE,b|pVip)bRdh*TSEd]aieoC*FIdeES-dhA,b&DJE
RV,cEOGc+H UK,Ya?d$p?A,r3,l*,p?l*;::^a$LEu%fM)^jNj(u%fM)fBu%n&iEu%ulj(u%vbj(u%n&m<h7POLrj)m<mnh7PO
Lrj)mni6oS fM)>i6oS vbi6oS n&m<Sk!>m<OMISiLvbm<OMISiLn&EDIdvI!CORONIS,qzOS,bYK%qzOS,qJbYK%qzOS,HYPOD
IASTOckmnObaOS,rxa9Oc)o9a9Oc)mnv_jO|oJki,p>h7ROBezPALM Bc*bfki[rslei=s)>fIPAc+HRASE vbfIPAc+HRAS
E n&dqDEwhlei=rw>t_[QUILL,^t_[QUILL,gfrYn&gfs&n&l<rYn&l<s&ulSIDEWAYS U vbSIDEWAYS U ul|t!^|t!yUs8,f
Wbvi[qZs8,Sm*hIeZs8jgeZh|qJuT,q4lfR<iw,WORDq% sYnfj4m<e0m<j4nfSEMIj2DAGGER[>GUa*,DAGGER[^GUa*,nfDAG
G)gfe[nA?dE-oblbobSdiOGc+Hb%rMq4SIX hkWIGGcsvFCAPITULdL|ki,qJj4|cq-oX-9 v[Da=[>UPgj,|SUSc7iLh|p>fIKA
VYb|p>fIKAVYKA[KAVYKn4fIKAVYb|fIKAVYKAq*|STACK%j4mnSm6neDAGG)MEDIEV!j4qzdRh|PUNCTdRELEVATdRh|CORNfqd
YSE hjER;:j7PATTY[:^hceO>hca|;::TIRONffiKn)bUMEDIEV!w$MEDIEV!uT,fBvOudiEvOudfBvO[j)nFiEvO[j)nFqU>t!q
U^t!tw>t!tw^t!oJki;2E80:CJK RADh1:f$a?CLIFFnLONEnLdEnLlak1,eRTABckKNIFE fXKNIFE glDIVINg$ahALlNf
Xk^glchE fXchE glchE lachE e<,SNAcbgbaZSNf2fXSNf2glkcfXkcglhRc+;2E9B:CJK RADh1:CHOKbEdMMO+DEAdlMOTH)
CIVILI$WAf[fXWAf[glhAPAW fXPAW dElLFI%hQdxE TRUNK,COW,DOG,JADbxOLiPCLOdlEYEgRb[ONEgRb[glBAMBOOajLKu*
SILK,NbTfXNbTglNbTlaNbTe<,MbSd~bPRa7Ed0OLD,BRUSH fXBRUSH glMEa?MORf<b1c~fXb1c~glb1c~laTIG)CLOTHbRWES
T fXWEST dEu*SEElLFI%fd,fdu*SPEECHu*SHELL,FOOTu*bdTlLFI%WALK,WALK fXWALK glCITYu*GOLD,h?fXh?dEu*Lc
Uu*GATbBf0 fXMf0 glRerBLUEu*dfN%LEAf_u*fAu*Wb=u*FLY,Ea>fXEa>glEa>gbEu*Ea?e^u*b9SbxfXGHOSTu*FISHu*BIR
Du*SALTlLFI%WHEATlLFI%YELcqu*FROG,JtnEVENu*EV(JtnTOOTHu*TOOdlJtnmqCtnmqdDgeJtndDTLEu*dDTLE;2FaqKa$X
I RADh1:fXh=e0SLa=ahbkD,hXglLID,M$LEGS,bO)Eh4hmeRCOV)IbeTABckiqeRKNIFbDOW)WRa%SPO+^iqeRHID<rBT(DIVI
Ng$aha4CLIFF,PRIVAdhAGerkMrBj*SCHOLa(GO,GO ScqLY,EVENfoBIG,WOM$CHILD,ROOF,INbfSh]chbyORPSbEc$dTkKb<R
IV)WORK,ONESELF,dDB$DRYlKgbaZmnCLIFF,h?Sdybpgke]SebcYbb,SNOdTBc]geSTbPkdb2BERD,DOOR,hRBc*bfRa%SeUT,D
IPP)AXbEk!cJamNagY,MO+TR&LACKalcWDEAdlWEAP+DO NcYbjc6bzdQCL$STEa7WAT)hACLAW,e))|X,hQdxE TRUNK,
ScmbzezCOW,DOG,c$Ff0,JADbBEL+iZSWEbULIFE,USbzIELD,BOLiPCLOTHajCKiimnTe9WHITbEKb<hiEYbEPEa(jQSdtEg
Rb]dwbiGRerCAVEalexBAMBcVc?EajLK,Ja(NETd~bPFEa[)OLD,exPcq,Ea(BRgsMEa?cDIST)SELF,eGVbBORf<TcUdJOPPO
SbxOAdcduPfoCOLOR,b1SS,TIG)INSECT,BLOOD,WALK rBCLOTHbRWESdc&fd,SPEEbfVa6EY,BE$PIG,BADGERd~LL,RbHRdMF
OcYBODYd[T,BITT)MORNfoWALK,CITY,WfnbtTb>UfrVILLeqGOLD,LfYGATbBf0,SLAVElKf+%BIRD,RerBLdJWRfYhwLEa[)df
N%LEa[)LEEK,Sf0,fA,Wb=,FLY,Ea?e^,FRAGReBb9SbxfXTa6,hPFh4SACRIFICI!WfnCAULDR+GHOST,FfrBIRDagLT,DE)WH
Ea?HEMP,YELcq,cCLbUg<,EMBROIbrY,FROG,dyPOD,DRdLRAdbOSE,EV(TOOdlmqdDgeFLUTE;2FF0:tLDESeUi1Cp!:>drk*j
EdrjU>drkI=k*jEdrkI=jUFgnSURRf0vRABOVEvRg)vRfBvRllfBvRlliEvRkCh)kYIDvRiEvRkCk*sNREFLECi2oZ;::p)IClGt
Lj4tLrMDITdrh|p[b=USdy!STa!a*nHtLv(tLeT<h|tLm4i?>jNvbjNul|jNvb|jNulmfvbmful_mfvb_mful]sSvb]sSn&POS
T!h|GEddh|>y7^y7>_sSvb_sSul_y7^_y7>_Sk9vb_Sk9n&i+DeIqJ|PRIME v[|PRIME v[fI|PRIME v[POST!h_bWE;:Ha$ZH
OU in!:y+x2E;:tL:LEVEL sem>seDEc6T<seENdj<i3fM;:nUSb>cjeZsemA|eZsei<Da=;:q4KANA f$a>:h|i=u4h|h_lle[
,i=u4h_lle[,h_kCe[;:phPOST!h|tLf>Gc+H h<FEEDq%lH;:Ha$ZHOU in!:s<k|;::q4tLv(czU h|c6T ALf]rj;:tL:guj
Rp+,hQFILL SPACE;3041:p(~lYaJlNI,IlNdHlNE,ElNO,O,krcdGI,cfGU,KbAE,ceGcOaWAaj,ZIam,ZU,SbFbEcPO,Tg1doD
IlNdCdCDU,dhbpdsbuv**Bg3b7BI,c9b!BU,PU,HbxbDE,HcLcNO,qfMbBOlNd4YAlNd$YUlNd8wfROlNdZdZd1d0WcM,VUlNKAl
NKE;3099sqou-p(:u4fMgP-u4fM;:ou-p(:u4fMgP-u4fM;:p(:v(nrv(j&H YORI;::ou-p(|ki;q^~lYaJlNI,IlNdHlNE,ElN
O,O,krcdGI,cfGU,KbAE,ceGcOaWAaj,ZIam,ZU,SbFbEcPO,Tg1doDIlNdCdCDU,dhbpdsbuv**Bg3b7BI,c9b!BU,PU,HbxbDE
,HcLcNO,qfMbBOlNd4YAlNd$YUlNd8wfROlNdZdZd1d0WcM,VUlNKAlNcbVaVI,dXVO;:ou: sY-p(c$LcU%Sf
0 h| v( nrv( j&H KOTO;3105:BOPOMOFOo?B,P,M,F,D,db,L,G,K,H,J,Q,X,ZH,CHai,R,Z,C,S,aR,E,bIa3EI,a]c
Z$(eze7)feIU,Vaf,GN,IH,OwhNN;3131nU~:tPmHktjskNkOg~,kOkgldjlz]kJs7k3iujsf)jliMsQjlg~z7A,a0d4Ya0EO,E
,vLE,cQwgd$EU,d7I;:nUFILLER;nU~:iOkNkOncijjsijpdk)ktjsk)nck)iujsiDpdk)ltkgid-k3idjsidpdotkJk4mHk4nck
4iNmHk4iNnck4g~,iupeotk3otiOiujkktjkijjkldjkiujkg~,PANf)jlh2,o<,o<jso<pdotm(jlkgltkgYO-d4YO-Ya0YO-I,
YU-YEO,YU-d6YU-I,a)EA,a)EAE;3190:tLANcJjR:cnK<h|oWh|fWh|gkh|k~h|hIh|gfh|mZh|l<h|j|fMnLh|k_h|e<dkh|HE
AVbLh|bGdkh|Ma8fM;:BOPOMOFOo?BU,ZI,JI,GU,&ENN,cVONN,IR,ANN,INN,UNN,IM,cH,AINN,AUNN,a7cSfYINNN;:BOPOM
OFO :j^~P,j^~T,j^~K,j^~H,~GH,~LH,~ZY,j^~G,~GW,~KW,~cQ~AH;:CJKnE:T,WG,XG,BXG,SW,HZZ,HZG,HP,HZWG,SZWG,
HZT,HZZP,HPWG,HZW,HZZZ,N,H,S,P,SP,D,HZ,HG,SZ,SWZ,SdcG,PD,PZ,TN,SZZ,SWG,HXWG,HZZZG,PG,Q,HXG,SZP;31Eb
VtLDESeUi1Cp!SUBdwCgd;q^vvKUajam,TcMU,*b7b!b5b8MU,c)c>c_c<RO;vVmA:mHkNnck(kJk3iMsQz7kt A,ij A,ld A,i
D A,id A,iu A,f) A,h2 A,g~ A,l~ aPHIEUKH A,iXdkA,m( A,hU A,g~ U;vVKOREa8Cp!O:JE+ HU;3220vVp) :z%T(M
O+hAWAT)WOOD,METa4j*SUNalObiHAVbEOCIETY,NAMbEPECIa4FINa9IALd^b1TULjSLABOR,REPc=e9Ca6alUDYjmVISE,ENdj
Pc]E,c=c1bea6Ig8FEdaVa4f%ahLF,REACH;php) :QUESi2KINbrGART(SCHOOL,KOTO;phoIf?wFi8Y wFk| wFbYdFwFj[wFS
IXdFwFSEVENdFwFEb(dFcTg<i|E;::c6TNERSHIPgG;phm4i8Y :y+x2E;phoIk|;phm4k| :xw,FIVE;phmA:mHkNnck(kJk3i
MsQz7kt A,ij A,ld A,iD A,id A,iu A,f) A,h2 A,g~ A,l~ aPHIEUKH A,iXdkA,m( A,hU A;phKOREa8Cp!:Cb3ceJUE
UI;:phmAh2 U,KOREANada!a*lH;php) :z%T(MO+hAWAT)WOOD,METa4j*SUNalObiHAVbEOCIETY,NAMbEPECIa4FINa9IA
Ld^b1TULjSLABORahCRbUcwbzEcwEamITABckEXCELLe9Pc[T,ATTe!+ITbKf%,COPY,CORf!,fa,l|cq,h)k*MEDICfnRELIGI+
STUDYjmVISE,ENdjPc]E,c=c1bea6Ig8Nb(T;phoIk| SIX,k|abV(k| Eh4k| NfnbYTY;phm4bYdF:y+x2E;phoIFIFTY;:t
Lf>Gc+Hti:JANUARY,FEBRUARY,cybfAPRIL,MAY,JUNE,JULY,AUGUSTahPTEMB)OCTOB)NOVEMB)DECEMBER;n2:HG,ERG,EV;
::LIMIT%LIABILITYgG;phou aHfee5b|cdcfcbKOgOIgUbEO,dedodCdhdsv**b7b!b5b8qfMbBO,d4d$wfc^dZd1d0WO;n2:p0
REIWaJPAAdsARUHUaJNPEaJAc_INb>U,INdoU+ESUKUUbuEEKAaRNSU,OOMU,KAIc>Ka)TdscaORb*GAR+GANMaOIe=INb*KYU
Rb*GIRUDAaPIc^KIROGURAMU,KIROMEETOc_KIROWATdsGURAMU,GURAMUT+KURUZEIc^KUROfXKEESU,KORUNaPOOPOagIKUc_
SeCIMUajf&U,Se!ahNdsDAASU,DESI,DOc_T+NeAcJdsHAIdCPAASbOcNAAdCBAAREc_PIASUTOc_PIKUc_PIKcLIc_HUa)DbuHU
IITcLUSSi>HUR$HEKUTAAc_PESO,c7Ib7b6UdCc7SU,PEEZI,BEEdeiwcLORUdsH+PONbuHOOc_HO+MAIKUc^MAIc_MAH*cy
UcfcxSY+MIKUR+MIc>MIRIBAAc_MEbZMEGAT+MEETOc_YAAbuYAAc_YU$RITTOc_RIc)RUPb*RUUBUc_REMU,RbOOG(WATTO;:t
Lf>Gc+HtiHc1 :i?z%z[iTi8Y,nifXniglnilanie<;n2:HPg1a]eOOV,PC,DM,DMo|DoCIU,p0HEISEI,p0SYOUdZp0TAISYcZp
0MEIZI,CORPORjSPA AMPS,cGMU g2ftB,MB,GB,Ca4KCa4PF,NF,MU F,MU G,MG,KG,HZ,KHZ,MHZ,GHZ,THZ,MU L,ML,DL,K
L,FctM,MU M,MM,CM,KM,MMo|CMo|Mo|KMo|MoCCoCoCKoCMi[S,Mi[So|PaPc5MPaOc5RaZRADi[S,RADi[So|PS,NS,MU S,MS
,PV,NV,MU V,MV,KV,MV MEGaSW,NW,MU W,MW,KW,MW MEGaP OHM,M OHM,a7BQ,CC,CD,Ci[KG,CO,DB,GY,*HP,b<KK,KM C
APITa4KT,LM,LN,LOG,LX,MBlFcC,MOL,PH,PM,PPM,Pc&c&V,WB,Vi[M,Ai[M;:tLf>Gc+HtiDAY :z%z[iTi8Y,nif
Xniglnilanie<,nihDniSIX,niSEV(niEh4niNfnk|,k|-ONE;:n2GAL;4DC0:HEXAGqHf^blATIdWHEAV(f^RECEPTIdWj*DIFF
ICULdFa>f^BEGINNfoYc2HFUL FOLLY,WAITb>d^FcmT,f^ARMY,omTOGEf_lNTAMfodxADfoPEACEala!SdqL,FELcqSHIP,GR
Ea>POSSESSI+MODESTY,bOHUSIASM,FOLcqfoWORK cTf^DECAYbHAPc$ACHd^TEMPLjSBIT<nb,b1CbEPfE<Ac6T,REgj,INNOC
ENCbAREa>TAMfokLj6S,GREa>PREPONbrg8f^ABYSM!WAT)f^CLb><hAINFLUENbeDURjSREdxa?GREa>POW)c$Gc=S,DARKEN<c
Rf^kAf^FAcCY,OPoS,OBSTRUCi2bqIdYg8DEblASE,INblASE,bcAKnb,bj<drMEbUGAf_<TOGETH)f6<lm,OPPc=SI+f^WELL,R
EVOLUi2f^CAULDR+f^AROUS<THi(,f^KEEP<SdqL kKb<DEVELOPibf^cyRY<MAID(ABUNDg8f^WANbr)f^GbOLEd=D,f^JOYf1L
Acbbtc8SI+LIMITjSINNbQTRUTHlNPREPONbrg8AFf[j5i2BEbYE j5gd;A0aqYIq):b]IX,I,IP,fjfkb&fia?AX,A,a%gqUO
,gpcYc3O,cWEX,E,WU,Bb]BIX,BI,BIP,BfjBfkBIbxfiBa?BAX,eLa%BgqBUcLgpBcYeRBcLcWBEX,BbxbPBdTBdUBU,BdPBgr
BdQBd!Bd%BY,BYP,BgCBd9Pb]PIX,c9PIP,PfkPIbDfiPa?PAX,PaSa%PgqPUcNgpPcYPc3PcNcWPdTPdUPU,PdPPgrPdQPd!Pd%
PY,PYP,PgCPd9BBb]BBIX,BBI,BBIP,BBfjBBfkBBIbxBfiBBa?BBAX,BeLBa%BBgqBBUcLBgpBBcYBeRBBcLBcWBBEX,BBbxBbP
BBdTBBdUBBU,BBdPBBgrBBdQBBd!BBd%BBY,BBYc4BIdbBId3Bb$BIc4BfkNBIbCBfiNBAdbBAd3BaQBAc4BOdbeRNBcMBOc4B
UdbBUd3BdGBUc4BgrNBdQNBYdbBYd3BY,NBYc4BgCNBd9HMb]HMIX,HMI,HMIP,HMfkHMb&HMfiHMa?HMAX,HcvHMa%HMgqHMUO,
HMgpHMcYHMc3HMO,HMcWHMdTHMdUHMU,HMdPHMgrHMdQHMd%HMY,HMYP,HMgCHMd9Mb]MIX,MI,MIP,MfkMIbBfiMa?MAX,cvMa%
MUcYMgqMUO,MgpMcYMc3MO,McWMEX,MbBdTMdUMU,MdPMgrMdQMd!Md%MY,MYP,Fb]FIX,FI,FIP,Fa?FAX,FaNa%Fc3FO,FcWFd
TFdUFU,FdPFgrFdQFd!Fd%FY,FYP,Vb]VIX,VI,VIP,VfjVfkVb&VfiVa?VAX,VaVa%VcYVc3VO,VcWVEX,VbPVdTVdUVU,VdP
VgrVdQVd!Vd%VY,VYP,VgCVd9Db]DIX,bsDIP,DfkDb&DfiDa?DAX,DaMa%DgqDUO,e0Dc3buDcWDEX,bpDbPDdTDdUDU,DdPDgr
DdQTb]TIX,doTIP,TfkTb&TfiTa?TAX,TaUa%TUcYTgqTUO,TgpTcYTc3dsTcWTEX,dhTbPTdTTdUdCTdPTgrTdQDDb]DDIX,Dbs
DDIP,DDfkDDb&DDfiDDa?boX,DDena%DDgqDDUO,DDgpDe0DDc3DbuDDcWDDEX,DbpDDbPDDdTDDdUDDU,DDdPDDgrDDdQNDIdbD
Id3Db$DIc4DfkNDIbCDAdbDAd3DaQDAc4e0NDOd3DcMDOc4DEd3DbCDEc4DUdbDUd3DdGDUc4DgrNDdQHNb]HNIX,HNI,HNIP,H
NfjHNfkHNb&HNfiHNa?HNAX,HcGHNa%HNgqHNUO,HNcYHNc3HNcWHNEX,HNE,HNbPHNUdbIdbId3b$Ic4fkNIbCfiNAX,fOAc4gq
NUcMgpNOdbOd3cMOc4Ed3bCEc4UdbUd3dGUc4grNdQHLb]HLIX,HclHLIP,HLfkHLb&HLfiHLa?HLAX,HcgHLa%HLgqHLUO,HLgp
HLc3HcpHLcWHLEX,HckHLbPHLdTHLdUHcrHLdPHLgrHLdQHLd!HLd%HLY,HLYP,HLgCHLd9Lb]LIX,clLIP,LfjLfkLb&LfiLa?L
AX,cgLa%LUcYLgqLUO,LgpLcYLc3cpLcWLEX,ckLbPLdTLdUcrLdPLgrLdQLd!Ld%LY,LYP,LgCLd9Gb]GIX,GI,GIP,GfjGfkG
IbAfiGa?GAX,e=a%GUcYGgqGUO,GgpGcYGc3GO,GcWGbUGEX,GbAbPGdTGdUGU,GdPGgrGdQKb]KIX,cdKIP,KfkKb&KfiKa?KAX
,fta%KgqKUO,KgpKcYKc3ceKcWKbUKEX,cbKbPKdTKdUcfKdPKgrKdQGGb]GGIX,GGI,GGfkGGIbAGfiGGa?GGAX,Ge=Ga%GGUcY
GGgqGGUO,GGgpGGcYGGc3GGO,GGcWGGbUGGEX,GGbAGbPGGdTGGdUGGU,GGdPGGgrGGdQMGfkMGIbBGa?MGAX,MbZMGa%MGgqMGU
O,MGgpMGcYMGc3MGO,MGcWMGEX,MGbBGbPMGdTMGdUMGU,MGdPMGgrMGdQHXb]HXIX,HXI,HXIP,HXfjHXfkHXb&HXfiHXa?HXAX
,HXA,HXa%HXUcYHXgqHXUO,HXgpHXcYHXc3HXO,HXcWHXEX,HXE,HXEPaffkNGIe4fiNGATafAX,fQNGAPafUOTafgqNGUOafO
TafOXafOafOPafEXafe4bPHb]HfkHb&Ha?HAX,*Ha%HUcYHgqHUO,HgpHcYHc3b8HcWHEX,b5HbPWa?WAX,dZWa%WgqWUO,WgpWc
3d2WcWWEX,d0WbPZb]ZIX,ZI,ZIP,ZfkZIbFfiZa?ZAX,ZaWa%ZgqZUcPgpZcYZc3ZcPcWZEX,ZbFbPZdTZdUZU,ZdPZgrZdQZd!
Zd%ZY,ZYP,ZgCZd9Cb]CIX,CI,CIP,CfjCfkCIbyfiCa?CAX,CaLa%CgqCUO,CgpCcYCc3CO,CcWCEX,CbybPCdTCdUCU,CdPCgr
CdQCd!Cd%CY,CYP,CgCCd9ZZb]ZZIX,ZZI,ZZIP,ZZfjZZfkZZIbFZfiZZa?ZZAX,ZZaWZa%ZZc3ZZcPZcWZZEX,ZZbFZbPZZdUZ
ZU,ZZdPZZgrZZdQZZd!ZZd%ZZY,ZZYP,ZZgCZZd9NZIdbZId3Zb$ZIc4ZfkNZIbCZfiNZAdbZAd3ZaQZAc4ZgqNZUcMZOd3ZOc4Z
Ed3ZbCZUd3ZdGZUc4ZgrNZdQNZYdbZYd3ZY,NZYc4ZgCNZYRajTedajajP,SfkSIbEfiSATagXgOa%SgqSUcOgpSOdcc3ScOOPah
XahahPamTamXgUdPSgrSUc&Ydcd%SY,SYP,SgCSYRakITakIXakIakIPakfkSSIEakfiSSATakAXakAakAPakOTakOXakOakOPak
EXakEakEPakUTakUXakUakUPakYTakYXakYakYPakgCSSd9ZHa?ZHAX,Z*ZHa%ZHgqZHUcPHgpZHcYZHc3ZHcPHcWZHbUZHEX,Z
HbFHbPZHdTZHdUZb!ZHdPZHgrZHdQZHd!ZHd%ZHY,ZHYP,ZHgCZHd9CHa?bgX,C*CHa%CHUcYCHgqCHUO,CHgpCHcYCHc3Cb8CHO
Pd]Td]Xd]d]P,CHdUCb!CHdPCHgrCHdQCHd!CHd%CHY,CHYP,CHgCCHd9RRAX,Rc)RRgqRRUO,RRcYRRc3Rc^RRcWRRbURREX,
Rc<RRbPRRdTRRdURc_RRdPRRgrRRdQRRd!RRd%RRY,RRYP,RRgCRRd9NRAdbRAd3RaQRAc4ROd3RcMROc4REdbREd3RbCREc4R
UdbRUd3RdGRUc4RgrNRdQNRYdbRYd3RY,NRYc4RgCNRYRd|Td|Xd|d|PecOXecOecOPebTebXebebPd~Td~Xd~d~PecTecXecec
PecRXecRaiYTaiYXaiYaiYPaigCSHd9Ra?RAX,c)Ra%RgqRUO,RgpRcYRc3c^RcWREX,c<RbPRdTRdUc_RdPRgrRdQRd!Rd%RY,R
YP,RgCRd9Jb]JIX,JI,JIP,JfjJfkJb&JfiJUcYJgqJUO,JgpJcYJc3JO,JcWJdTJdUJU,JdPJgrJdQJd!Jd%JY,JYP,JgCJd9
Qb]QIX,QI,QIP,QfjQfkQb&QfiQUcYQgqQUO,QgpQcYQc3QO,QcWQdTQdUQU,QdPQgrQdQQd!Qd%QY,QYP,QgCQd9JJb]JJIX,JJ
I,JJIP,JJfjJJfkJJb&JJfiJJgqJJUO,JJgpJJcYJJc3JJO,JJcWJJdTJJdUJJU,JJdPJJgrJJdQJJd!JJd%JJY,JJYc4JIdbJId
3Jb$JIc4JfjNJfkNJIbCJfiNJgqNJUcMJOdbJOd3JcMJOc4JUd3JdGJUc4JgrNJdQNJYdbJYd3JY,NJYc4JgCNJd9NYIdbYId3
Yb$YIc4YfjNYfkNYIbCYfiNYgqNYUcMYgpNYOdbYOd3YcMYOc4YUdbYUd3YdGYdPXb]XIX,XI,XIP,XfjXfkXb&XfiXgqXUO,XcY
Xc3XO,XcWXd!Xd%XY,XYP,XgCXd9Yb]YIX,d7YIP,YfjYfkYb&YfiYUcYYgqYUO,YgpYcYYc3d8YcWYdTYdUd$YdPYgrYdQYd!
Yd%YY,YYP,YgCYYR;A490:YI RADh1:QcYclKIdbYIP,CYPakI,GGcWGbPMI,HXb]Ld9BBdTMcWYcNdTHXUO,Ta?GaWdPCd!DDdQ
BdQGGUcMYcWdCcWJJdTZcYPd!HMO,Yb]VURaiY,VbPZA,JcMZdPJJY,GcYJJb&d2DUaidQLIbyY,CgpCIP,HXOPaia?ZURebPd],
ZZfjNBb&KE;"

end Callwise.CharName

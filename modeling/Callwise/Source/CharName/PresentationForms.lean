/-!
# Names of characters in modern additions and presentation forms

The code points A4D0 to FFFF: scripts from Lisu to Meetei Mayek, then the presentation forms of
Arabic and Hebrew and the letters of half and full width.
-/

namespace Callwise.CharName

/-- The table of these names, in the order of the code points. -/
def presentationForms : String := "
A4D0:coUo?Bpvbnm]bZmFJaLjBDZA,qXkDLg4Z*ZA,fQ*XA,H*FA,WaT*YaO*A,a0E,EU,I,O,U,dJUH,cQi3MYA doi3NA PO;
:coU ~i3MYA :CYaKO,cGJEU;:coU t%:j4p8;:VAIq):&E(H&W&WE(P&BH&B&MB&KP&MGB&GB&F&V&T&TH&DH&DHH&L&R&D&ND&
S&SH&Z&ZH&C&J&NJ&Y&K&cH&G&M&N&NYEe3b<b7Hb<d1Wb<c9Bb7BI,MBI,Kc9MGBI,GBI,FI,VI,doTb7Db7DHb7clc>Db$D
Iajea,ZI,Zb7CI,Jb$JI,d7cdcHI,GI,Mb$b$d7A,$NG$*H$dZW$PaK*a^MBaPPaPP$MGBaOBaNA,dVm]D*DH*cgRjCDpwZaWHg0
JaQb^d4ft$NGe=g2NjDcVO+HcVgzWO+POcLHOcLcVMBcVKPcVMGBcVGBcVFcVVcVTcVTHcVDHcVDHHcVLcVRcVDOcMDOcOOOebcP
OcPHcVCcVJOcMJcVYcVKcVcHcVGcVMOcMOcMYcVU,dMb!HdMWU,WdMPU,Bb!BU,MBU,KPU,MGBU,GBU,FU,VU,dCTb!Db!D
Hb!crc_DdGDUgUb!ZU,Zb!CU,JdGJU,d$cfcHU,GU,MdGdGd$O,+NG+b8H+d2W+PcLHcLO,MBO,KPO,MGBO,GBO,GB+FO,VO
,dsgaDb8DHb8cpc^DcMDcOOaicPcPb8CO,JcMJO,d8cecHO,GO,McMcMd8E,(NG(b5H(d0W(PbxHbxbBBE,KPE,KP(MGBbABbAB(
FE,dXdhTb5Db5DHb5ckc<DbCDEahaibFbFb5beJbCb_d6Ke4Ge4G(GbA(MbCbCYe4,oyER;:VAI :j4rMuT;:VAIq)NDOLbwFaPa
TOO;:VAInG:FEe7KEe7TfoNb*BezFAaUAaMezDOfYKgoTfYDO-O,JcU;:VAI mmi?y+x2E;:VAIq)NDOLbwMaMO;A640pj :v3ZE
MLYvYZEMLYw2DZELv+DZELw?qJDZv6qJDZw!fpu<fpwiDJERVu<DJERVwicEOGc+H UKu<cEOGc+H UKwiBROAD kWuXBROAD k
Wv3m3 Y)uXm3 Y)v3xCu<xCwip?YATu<p?YATwiqJYUu<qJYUwip?vYp?w2mcr3u<mcr3wiBLbM%YUSu<BLbM%YUSwip?mcr
3u<p?mcr3wiYNu<YNwiqJTSv6qJTSEwVfUDEvQfUDEwVfUELvQfUELwVfUEMvQfUEMwicEOCi&v+cEOCi&w?BINOCi&v+BINO
Ci&w?|cEOCi&v+|cEOCi&O,~igOCi&O;sqj!fgVZMbUf?m1S?onm1S?o3 m1SgG;aGLAVONb%l$K;sqj!sPsgIe3YferPi>SOFT?
OMEGA;sqj!fgKAVYKaSAYEROK;pj :KAVYKaSAYEROKwiDWv6DWw!DZWv6DZWw!ZHWv6ZHWw!CCHv6CCHw!DZZv6DZZw!TE[mZxq
TE[mZx=TWv6TWw!TSWv6TSWw!TSSv6TSSw!TCHv6TCHw!HWv6HWEwVHWEvQHWw!|v+|w?hc%v+hc%O;:wCj!fgrPSOFTgG;sqj!s
PEF,p?E;:BAMdK~aHb|U,cf&R&TAe5Nd7I,Lg3Rb*RI&LEE&MEE&TAaQDAaQJAbKMamU,MUeaIajd~UXahdUKY&KEdbgmNdGJgmY
OQec,YUQ,YaQS*KEdUPEUd3J&NT&PdJWUbD&F&c_crMb$I,REdURa0K(NGKWA(cHAafeocNgmFU,FcSdZcGclc9LOQ,ceMB(R(
M(cvdocdMO,MBAaUbUKPaU(NTUUagMBaNAAMa0KOVUU,KOGHOM;:BAMdKsqh_KOQND+roh_TUKWe!S,NJAEMclrMj2bjMAgPj2u
T;A7aqwCCHkoi3Y:b+PfoeyPfoINaceza$acezb+QU,eyQU,b+c_eyRU;xesGmnqThVmnqTfNmnqTfImnqTrEmnqTsGmnxWhVmnx
WfNmnxWfImnxWrEmnxWsGxWhVxWfNxWfIxWrExWeZu3bvlDeZsNeOtVmfjOm<dOjQm<hmjQm<w$m<p>w$fIp>w$STc=S=hVi4S
Tc=S=fIdtE;yXvietu<vietwivieruXvierv3HbNu<HbNwiTZu<TZwiTc=ILLv+Tc=ILLw?CUAdyLLv+CUAdyLLw?CUAdyLLO[j
4uXCUAdyLLO[j4yvF,yvSwiAvYAw2Av+Aw?AUu<AUwiAVu<AVwiAV[sNa|u<AV[sNa|wiAYu<AYwiqJCq*uXqJCq*v3KzaKzpK[z
BK[zNKwUzBKwUzNl?Lu<l?LwiL[fai~v6L[fai~EyWLcUnEoQuXO[LcUnEkYYyWfHu<O[fHwiOv+Ow?PgKnEnb mk)uXPgKn
Enb mk)v3P[ofu<P[ofwiP[SQUIRREL xyP[SQUIRREL f+wiQgKnEnb mk)uXQgKnEnb mk)v3Q[zBQ[zNR k<vYR k<w2Rd
Kk<vYRdKk<w2V[zBV[zNVYu<VYwiVISIGOTHb%Zu<VISIGOTHb%ZwiTfdzaTfdzpTfdgKnEnb mk)uXTfdgKnEnb mk)v3VbMu<
VbMwiETu<ETwiISu<ISwiC+uXbk;xeUS;yeDdLLdLMUctdLRUM;jx :yvRUMu<TUMu<UMwioqDu<oqDwioqFu<oqFwioqGwinfoq
Gu<nfoqGwinfLu<nfLwioqRu<oqRwioqSu<oqSwioqTu<oqT;xefIxkhalKsF;yXSALdqLOvQALdqLw?nfHu<L[r]fc=g*~SINOo
AbvwiNzvNzKC[a|u<C[a|u<CxEuXHxEv3B[ofu<B[ofwiFzaFzpo*Av6o*Aw!o*Ov6o*Ow!o*Uv6o*Uw!G[uQv6G[uQw!K[uQv6
K[uQw!N[uQv6N[uQw!R[uQv6R[uQEwV[uQEvQ[uQE;yYHsmqJm8m?G,L[g*k^n)I;zzQ;yYnfK,nfT,J[umCb7BETA;ydBETw2k
WuXkWv3UzaUzpohvYohw2ohv&ohw*ohUu<ohUwifVPOLfqv+fVPOLfqw?a$cmANA Wu<a$cmANA W;yYCxESsmZxED[Sb9TnEkY
Y;ydD[Sb9TnEkYYwV[Sb9TnEkYYvQ[Sb9TnEoQv3RAMS fdwV[zBS[n>i~E;A7D0yXmcoqGu<mcoqG;A7D3yd|Tfd;A7D5yd|WYN
NwimZSCOdASu<mZSCOdASwVIGMOID SvQIGMOID SwichBDvYchBDw2chBDAsoE;A7F2:wCn):C,F,Q;yXqJhQHu<qJhQH,EPI
Gc+Hb%~SIDEWAYS I;xen)Hudk^p~OE;zznfM;jx EPIGc+HsPqJF,qJP,p>M,I LOfQn9M;:SYLOTI NAGRI :~A,~IjjDVISV
Ac)~U,~E,~OjjHASANde~ce~Kb8~GO,~GHOjjl8A;:SYLOTI NAGRrTCO,Cb8JO,Jb8TdsTgaDbuDDb8dsgabuDHcMcNcNHcLcLb
8MO,c^cpRRcOO,HO;:SYLOTI NAGRIubA,tcuGU,tcusOcNOETRY fMjoiKrdHASANTA;A830:kPh6 p6:t6oL,wam7f=naj<,k~
SIXf=THS;:kPb=fgoUh|c!CEHOLDbQh|iH h|QUeCdFfM;A840:PHAGS-PAo?mFbZsZJjDiQjCpvBg2qXDZA,WaW*ZAlNA,q8SHg
4*A,fee5c%XaNaObZEE;:PHAGS-PAxDdZYA;:PHAGS-PAo?giTTHenaQcGrdYaVOICEfD S*nr*ASPIRAT%FA;:PHAGS-PAaaU
Bfs%~RAjmFIX%~c)~pMDUnNp$,|p$,fMi]h_j)d(D;A880:SAURa=dwlwx(A;:SAURa=Tc(z=hpa3ioz+z)VwmLLA;aGAURa=
Tc(v4HAARU;:SAURa=Tc(z>hpa3ioAU;:SAURa=dwlCnppMDU;A8CE:SAURa=Tc(:unDa!A;:SAURa=Tc(mmi?y+x2E;A8E0sqDE
VANAGa< mmi?y+x2E;sqDEVANAGARrTA,U,KaQg3RaVI;sqsri^AVAb1HA;srlCSPAC<tytxnp|txnptxgltxlatxpJf6PIK
A;sr :GAP FILL)bdbUe^SdzKEjjSIDDHa7JAb+cS~AY,tcAY;lVLI mmi?y+x2E;lVLrTmFGAafpwZjDdeHTaQpvMg1a^c)d4cg
WaU**Vg0aRe3OO;lVLI lq:dJE,U,&O;lVLI :i3PLOPb!i3CALd4i3CALYA PLOPHUjjCWIjjSHYA;:REJa$o?krfQTjCg3a^Mg
0JjDc|c)cgd4dZ*Ma^cHaQDaQYJaJ;:REJa$ucfemsa]EU,EA;:REJey:v4NG,v4N,v4R,v4H,gvMA;A95bVREJa$abCqS;nUCH
OiI ld-:kJk3iMg~;nUCHOiI k):tPmHldjlnckJs7k3otk3iMg~,KHIEUKH;xcid-mHid-ncidjsk4f)pek4ovk4hUjliNk3h
2-k(h2-hUjlg~-hUjliXdlm(-kghUjsiOlthU;A980q]iK:PANYAcHaLECAK,LAYa(Wb)d5;q]~aHI KAd1hZU,PA CEREKafA L
ELETafA LELbTRASWAbsmsftAlAKn5e=n5NGg0Cn5JaQYn5JrajDgiTTraenenraaQn5TaUn5DaMraaQg3Pn5eLn5cvlrc(A
GgocgWaTn5Srag4HA;:q]iKCECAK TELU;q]t~TARgoTOLfYWUcrWULU MELIKamKUamKU MbMdTTALfoDIRGA MURbDEPET;q]v
4:KERbUPbNKa4CAKRA;q]:Pa$K+>REREcH$^REREcHAN;q]PADA :a!a%MADd4LUHdQWb=U,Pa$Ka?Lb>c|LdNSI,ADEG,ADEG A
DEG,PISELEH;:q]nfPADA PISELEH;A9CF:q]Pa$Ra$KEP;q]mmi?y+x2E;A9DEq]PADA :TIRddTUMETbRISEN-ISEN;po~SHev
GHjBJmzBHA;nXlwSHa8SAW,wCSHa8REDUqB;po~f*LA<:NYaNA,e=*mEDDen*NNA;pof*LA<mmi?y+x2E;po~f*LA<:LLg1D*eLH
A;AA00juvumsvpNGUe4jBCH*mENHUbC*NHb^iQg1D*NUbCeng3PPaS*eL*MUbBaKa^q8VAakg4HA;jux~EfeOe5a3AdHE;juv4:q
8WA;AA40ju~j^:K,Gaf;:juv4j^NG;ju~j^:bfdb,P,Y,R,Lak;juv4j^:M,H;AA50jummi?y+x2E;AA5Cjus8aaPIRa4xQneDa!
A;po~ks :GaLjBmExZ*D*Ng4*H*FA;:powCks REDUqB;po~ks :XaWA,RA;poqbks :OAY,QN,HM;nXnGAITcT:mvi2fXdE;po
:~AITcTRl3PAO cabLdtE;nXi^f*LA<i5:2,5;po~SHWE PALAdN :bgd|;:f*VIETo?fIKm5KkSKHm5KHkSKHHm5KHHkSGm5GkS
NGm5NGkSCm5CkSCHm5CHkSSm5SkSNYm5NYkSDm5DkSTm5TkSTHm5THkSNm5NkSBm5BkSPm5PkSPHm5PHkSFm5FkSMm5MkSYm5YkS
Rm5RkSLm5LkSVm5VkSHm5HkSm5O;:f*VIbT:fLKezlqaXlqI,lqdJlqU,lqE,lqO,fLKHIT;:f*VIbTlq:IA,UEA,UaJdJAY,$A
M;:f*VIbTi3fL:EK,NUe7gaScU;AADB:f*VIETnG:K+NUe7Sa7HO HOI,KOI KOI;u]~:e5C*xZmzS*SSA;u]t~b*UU,Aa3a]AA
U;u]:bhIKH$AHeyKHUDa7ANJI,SYLLABcjf$TIsdWORD f$TIsdtco(gvMA;AB01xFTTH:U,I,aX&E,O;AB09xFDDH:U,I,aX&E,
O;AB11xFDZ:U,I,aX&E,O;AB20xFCCHHaHU,I,aX&E,O;AB28xFBBaHU,I,aX&E,O;AB30yel(jKA oX-Sg|g<~E,l(E,E[of,LE
Nb?F,m?G[umL[p>LAZY S,L[|uOL[mZiFM[umN[umbN[umg<~O,g<~OudiqOudp>cQnfOEudnfOE[xrnfO fZ-O,nfO fZ-Oudda
RRdOR;zzR[^LEG;yeRgKf2e]ck|R,R[um|R[umm?R,m?R[iFa~Eh<e%U[k]^LEG,U a|[k]^LEG,UI,nfUI,U[>hXCb7CHI[fI^i
FCHI[fI>SERIF,X[fI^iFX[h?>LEG,X[h?>LEG=fI^iFX[h?>LEGsn,Y[k]^LEG;::qijYi=p>bcVE;:qivvHe7L[p>LAZY S,
L[uOU[>fc;yeSAcc Ya?p?E,iqcQUO,p>g7;:lTyvOMEGA;yeDZ upv]dAupv]vBmZdqDE;xek^nfW,>TAbi^TACK;AB70:Cb6OK
EEvNA,n|V,GaPaObAI,GO,GU,GV,*b5b7b8b!HV,cgckclcpcrLV,cvMbBI,MO,MU,cGHfOa2NbCb$cMdGV,QUA,QdJQUI,QUO,Q
UU,QUVgOahaj,SOgUV,bndebpdhbsdobuDU,DV,DLaUcggeTclTcpTcrTLV,ghTSE,TSI,TSO,TSU,TSV,dZd0d1d2WU,WV,Y
A;u]~:KOK,Sa7La3Mb]PaQaLHIL,dq,KHOUafcZTHcZWa3YezHUK,dMI,PHa7ATIYaOOK,JHa7Ra3a^JIL,DIL,GHcZDHcZBHa7K
OK mRLAI mRMb[mRPA mRNA mRdq mRNGOU mRI LONSUM;u]t~ONa%INa%ANa%YENa%Sc0a%UNAPd]INAc4dN;u]:bhIKHEI,Ld
KIYEK,APUN IYEK;ABF0u]mmi?y+x2E;D7B0nUJdNiI :O-YEO,O-O-I,YO-A,YO-a0YO-EO,U-YEO,U-I-I,YU-a0YU-O,EU-A,
EU-EO,EU-E,EU-O,I-YA-O,I-Ya0I-YEO,I-d6I-O-I,I-d8I-d$I-I,a)EA-A,a)EA-E;D7CBxGkOk(kOl~jlldjlld-k3ld-k
3ldjsld-iNmHld-g~,ld-l~,ldpek)iOmHk)kt-hUjlk)ovk)id-kgk)k4nck)k4m(,k)o<,k)lthU-kgotk(id-kNid-iOijjlk
Jid-iujsid-g~,k4nck4k)m(,k4idjlk3k4iNnck4g~,k4l~jkidjkots7iNtPiNncf)pdiNg~jkl~,f)peiNkgPANiNk3PANi
Notk3o<-kJo<-kgg~-k3g~-iOs7g~,m(jsm(-iXTH;FB00jxlEp~:FF,FI,FL,FFI,FFL,h?S Tal;FB13:ARcBffk^p~:MbLNOW
,MbLEbfMbLINI,VEW NOW,MbLXEH;FB1DnV:~YOD[HIRIQ,iw JUDEO-SPANfqgub|p~YIDDfqYOD YOD PATa2~n8IdWAYIN;n
V~Wfh:et,DALbUb5fuchbHj^MbKRe%TAV;nV~:n8IVmrSb)eaN[SHb+bveaN[Sb+bveaN[heH=SHb+bveaN[heH=Sb+e0rcPATa
2rcQAMAdBrcMAPIQ,BET[miGIMEL[miDALET[miHE[MAPIQ,VAV[miZAYIN[heH;FB38nV~:TET[miYOD[mij^p]mip]michE
D[heH;FB3E:nV~MEM[heH;FB40nV~:cK[miSAMEKH[heH;FB43nV~:j^PE[miPE[heH;FB46nV~:TSADI[miQOF[miRbS[heHea
N[miTAV[miVAV[HOfyBET[RAFE,p]RAFbDE[RAFE;:nVp~g5chED;vS:g5WASLA vog5WASLA sHBEEwuBEEuDBEEv9BEEvlPEwu
PEuDPEv9PEvlBExpBEv%BEw(BEwxTTExpTTEv%TTEw(TTEwxTExpTEv%TEw(TEwxTTEwuTTEuDTTEv9TTEvlVEwuVEuDVEv9VEvl
PExpPEv%PEw(PEwxDxBDweDYEv9DYEvlNxBNweNYEv9NYEvlTCxpTCv%TCw(TCwxTbhxpTbhv%Tbhw(TbhwxboH!voboH!sHDA
H!voDAH!sHDUL voDUL sHDD!voDD!sHJEwuJEuDRREwuRREuDKExpKEv%KEw(KEwxGAF voGAF sHGAF uIGAF tZGUEwuGUEuD
GUEv9GUEvlNGOEwuNGOEuDNGOEv9NGOEvlilGHUNNA voilGHUNNA sHRilvoRilsHRiluIRiltZp&gAjEvop&gAjErH;vSe|GO!
:vosHuIsX;vSe|DOACHa=MEbwvosHuIsX;vSq9bwvosHi=tGvoi=tGrH;lSnG:rvrwwcwdw^w_s=qCrxjFs=qCrxjUwthIe1 j
U|u2jUx_jFx_jUf&lNTAH jFk^TAH jUWASLA ABOVE;FBD3vS:NG uJaf rHaf tNaf tZU voU sHOwsOurYU voYU sHU[t
GvoVwsVurowOwsowOurowYU voowYU sHwsurE uIE sX;vSUb(UR KAZAKH owts :uIsX;zbtGi=:g5vog5sHAwsAurWAW voW
AW sHU voU sHOwsOurYU voYU sHwsurE tN;wXUb(UR owq!tGi=ts :vosHtN;vSj?gA:vosHuIsX;zbtGi=:xUxmxXzjgAu
J;wXpK:xUxmKxmxXzjgAuJ;wXqN:xUxmKxmxXzjgAuJ;wXTp&:xUxXzjgAuJ;wX:rVxmrVxXp9xUp9xXrXxUrXxmrXiay(h
9y(e?y(Ke?y(iauJq<e?uJq<xXpNxUpNxmpNKxmpNxXqMxmqMxXZAH[xXpyxUpyxXsJxUsJiauJ;wXp4:xUxmKxmxXzjgAuJ;wXq
E:xmxXzjgAuJ;wXp]:g5voxUxmKxmfxvoxXzjgAuJ;wXp_:xUxmKxmxXzjgAuJ;wXr5:xUxmKxmxXzjgAuJ;wXr9:xUxmKxmx
XzjgAuJ;wXp&:xUxXzjgAuJ;zb:xUxmKxmxXzjgAuJ;wX:Tb2[Ss|g5voREH[Ss|g5vots[Ss|g5uJ;wjd(bo[:DAMMATa8voh!
Ta8voe)A voj$voh! uJueg5uJ;zbtGi=:REuDZAb+sHwBilsHy!gArH;wXpK:REuDZAb+sHwBilsHy!gArH;wXqN:REuDZAb+s
HwBilsHy!gArH;wXTp&:REuDZAb+sHwBilsHy!gArH;wX:p4y!p4weqEy!qEwep]g5sHp]fxsHp]wBp]y!p]wep_wBp_y!p_wer
5g5sHr5iarH;wXr9:REuDZAb+sHwBilsHy!gArH;:wXts[Ss|g5rH;zb:REuDZAb+sHwBilsHy!gArH;zbtGi=:xsw&xtxue|t
N;wXpK:xsw&xtxue|tN;wXqN:xsw&xtxue|tN;wX:Tp&xurVw&rVxup9xszmrXxsrXw+sph9tNspe?tNspxtSEocw+q<e?tNq<xt
SAD[xupNxspNw&pNxtpNxuqMw&ZAH[xupyxspyxusJxssJxup4xsp4w&p4xtp4xuqEw&qEw+;wXp]:xsw&xtfxuIw+;wXp_
:xsw&xtxue|tN;wXr5:xsw&xtw+;wXr9:xsw&xtxue|tN;wXp&:xsw+ueg5tN;zb:xsw&xtxuw(tGi=w<tGi=e|sX;wX:pKw<p
KwxqNw<qNwxTp&w<Tp&e|sXspiasXspe|y3iay3wxp]fxtZp]w<p_w<r9w<r9wxq!w<q!wxSHAbo[e)A sXd|bo[j$s
Xd|bo[h! tZqMzjqMxBpyzjpyxBsJzjsJgAy(ts y(gAy^ts y^xBp9zjp9xBrVzjrVxBrXzjrXgAuJq<zjSAD[xBpNzjpNgAy^h
9y^e?y^Ke?y^iay^REH y(REH uJq<REwupNREwuqMy!qMwepyy!pywesJy!sJgArHspyZspgAyNts yNwezUy%rVy!y_KzUKy%S
AD[yZq<wepNy!pNgAyNh9yNe?yNKe?yNiayNREH rHspREH rHq<REuDpNREH yNxsSHEocw&SHEocxtSHEocw+spw(SHEocw(q
Mw+sph9sXspe?sXspKe?y3h9y3e?y3ccvlqMw<ZAH[w<rcp3sHrcp3uJ;::ORNeJ>t!ORNeJ^t!l!p~RAHIMAHU euAH;wXRAD
I euAHU ANH:,aXdLUMaXUNNA;wjaaa6euAHU esHI WA-Aa5H,esHI riesHIM riesHIMAA riesHI AS-SALAATU WriQU
DbtaIIRRa2Sa6euHU esHI WAAa5HEE WA-SALfyesHAA riTABAa)KA WA-TAAALaXRAHIMAHdKeuAH;wXqN:rVxup9h9sHp
9xszmKzmr5xsr5w&r5Ke?tN;wXrVr5e?:sHtN;wXp9r5:weyZ;wjaboc:p9xsrVw&rVyZ;wjabocr5:v!w&xswBw+;wXSAD[:p
9v!p9w&r5iarH;wjd)oc:p9wBzmy_r5Kv!r5xtr5wBr5w+;wXpN:zUrXwBrXw+;wXqMr5:v!w&xugArH;wXpy:rVwBr5wBr5xur
5yZ;wXsJr5:wBweyZ;wXp4rX:wBw+;wXqEr5:v!iarH;wXp_:p9wBy%zUrVxsrVh9sHrXwBKzmr5v!r5e?tN;wXr5:p9xszmy%r
Vw&rVxurXxsrXw+;FD92wX:r5rVxtp&r5xsp&r5w+;wXr9:zmzUrVwBrVxurVy!y|r5yZ;zbr5:wBw+;wX:pKKy%qNy_qNrVy!qN
Ky%qNKzUqNy|qNr5y!rVy|rVzUrVr5yZsprXyZq<p9gAyNy%pNy%p_y_p_y|q!y%q!y_q!y|r5y|qEy|r9y%qEr
5w&p_zmpyy|p]y|r9rVw&r5Ky%p_rVxup]r5wBp_rVwBr9rVv!rVy%p9y_r5y_p4y|pKy%p]r5xupyrVw+q<r5w+spKy%r9rVgAr
H;FDCF:wXSALAAMUHU esNAA;FDF0wjaaeu US%AS KOc*b%Sdui^voQALA US%AS KOc*b%Sdui^voeuwuAKBa&voMOb3MAD u
JagfxvoRASOUL voesHwsWASALfxvoSeu voSa6euHOU esHE WASALfyJeuJALALOUHOU;::RIALgG;wX:BIScCLAH AR-RAHMa
8AR-RAHEEMeeHAANAHU WA TAAALAaJZZA WA Ja6;:wPOR-:as16;zO:j4tLj4tLrMhagPj2w$uT,>_sSvb_sSBRAKCbUsNj=I
S;FE20sq:p~>e[,p~^e[,|le>e[,|le^e[,kE >e[,kE ^e[,md<kE,p~rYjUp~s&jUlerYjUles&jUkE rYjUkE s&jUmd<kE j
Uj!b%TITLO >e[,j!b%TITLO ^e[;zO:gkeZLEAD)obbLDeIqei<qezZ>j8vbj8uly7^y7>]sSvb]sSul|jNvb|jNuljNvbj
Nulmfvbmful_mfvb_mfl=;aGESAME e0_SESAME bv;zO:fBvO,iEvO;::mjqyg^Eh<qyi<qy|i<qymjqeg^Eh<qei<qek^j4k^t
Lj4k^p8;FE54lY:SEMIj2j2uT,w$obzZ>j8vbj8uly7^y7kR?jLexpHf5?ki-ie,p|?tE?sF;FE68lY:wIDOLLAR?c8CbO?bjMER
CI!AT;FE70pfp3voTATWEEL[p3jFDAMMATa8vof+ FRAGibh!Ta8uJ;FE76pfe)A voe)A tZj$voj$tZh! voh! sXd|bo u
Jd|bo sXamKUN uJamKUN tZ~kbuJ;vSrc:h[ jEvoh[ jEsHtGvotGrH;vSWAW[tG:vorH;vSrckbg) :vorH;vSq!tG:vosHu
IsX;vS:g5vog5sHBEwuBEuDBEv9BEvlt*vot*sHTEwuTEuDTEv9TEvlTxpTv%Tw(TwxxUh9sHxsh9tZxmv!w&HAvlKxm
Kv!xtccvlD!voD!sHTH!voTH!sHREwuREuDZAb+voZAb+rHahbLuJahbLrHahbLtNahbLsXd~bLuJd~bLrHd~bLtNd~bLsXagD u
JagD rHagD tNagD tZDAD voDAD sHDAD uIDAD tZTAwuTAuDTAv9TAvlZAwuZAuDZAv9ZAvlAb+voAb+sHAb+uIAb+tZGH
Ab+voGHAb+sHGHAb+uIGHAb+tZFEwuFEuDFEv9FEvlQAF voQAF sHQAF uIQAF tZKAF voKAF sHKAF uIKAF tZfxvofxs
HfxuIfxtZxXwBxuw<ilvoilsHiluIiltZxpv%w(wxWAW voWAW sHzjy!xBweYEv9gAsX;wXp_etlxh[ jEvoi=h[ jEsHi=t
Gvoi=tGsHi=kbg) voi=kbg) sHvorH;FEFbVZERO WIDdkNO-bcAK SPACE;FF01tpw$v[kR?DOLLAR?c8CbO?jLexszzZpHf
5?j4ki-ie,rMSOLIDUS;:FULLWIDdkmmi?y+x2E;tphagPj2p|?sF,tE?uT,bjMERCI!AT;:FULLWIDdkytem,C,D,bz,G,H,I,J
,K,L,ct,cN,Q,c&,r_Y,Z;tpfBvO,wIiEvO,xkqeb1dWjG;:FULLWIDdkxVem,C,D,bz,G,H,I,J,K,L,ct,cN,Q,c&,r_Y,
Z;tp>j8n&vF^j8n&lf>_t!^_m%ESIS;:e[WIDdk:tLrM>mfvbmfn&tLj4ou sYou ~WO;:e[WIDdkou vvA,fee5d4d$d8TU;:
:e[WIDdkou-p(c$LcU%Sf0 fM;:e[WIDdkou vue5b|cdcfcbKOgOIgUbEO,dedodCdhdsv**b7b!b5b8qfMbBO,d4d$wfc^WaQ;
:e[WIDdkq^u4h|ouabMI-u4h|mAFILLER;zdtPmHktjskNkOg~,kOkgldjlz]kJs7k3iujsf)jliMsQjlg~,l~,oviXdlm(,hU;F
FC2zdA,a0d4Ya0EO,E;FFCAzdvLE,OE;FFD2zdwgYU;FFDAzdEU,d7I;FFE0tpCbO?Pf0?cJ?kE,l?eOYEN?WONgG;FFE8:e[WI
Ddk:e+S kzo$,rZvaw7wnjQg<nD_j1;FFF9:h7mPANcJjR:a9b9ahm$,djcDAdv;::OBJECT REc!CEMe8CHa)CT)REc!CEMe8C
Ha)Cdj;"

end Callwise.CharName

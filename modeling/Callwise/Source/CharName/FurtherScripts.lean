/-!
# Names of characters in further living scripts

The code points 10A0 to 1FFF: Georgian, Ethiopic, Cherokee, Canadian syllables, Mongolian, Balinese
and others, with the extended Latin and Greek letters.
-/

namespace Callwise.CharName

/-- The table of these names, in the order of the code points. -/
def furtherScripts : String := "
10A0:GEORGIANwTz_E;10C7:GEORGIANwTYN;10CD:GEORGIANwTAEN;10D0:GEORGIswz_bzI,YN,ELIFI,nfG$AIN;::GEOR
GffqzslwCGEORGffNAR;:GEORGIswA(rPLABIALgG;xctPmHkNldjlnck(kJs7k3f)jliMsQjlg~z7kOtPkNkOnckOk3ld-m
Hk)ijjlk(k)kgotk(id-k3otid;nUCHOiI k4:mHkNncf)jkktjkldjks7f)jkg~,g~,l~,iXdlm(;xcotk3otiOiu;nUCHOiI i
N:mHkNnck(kJk3k4tPiMsQ,l~,oviXdlm(,hU;xcCHITUEUMf)pciOf)tkf)tkiOiMPANiMh2-mHh2-nch2-kJh2-k3h2jsh2pdi
Oh2,h2-g~,h2-l~,h2peh2-m(,YESsQ-h2pcg~pciOg~tkg~tkiOg~,l~-ovl~-hUpcl~tkl~,m(-k
3otm(jlkgltkgkt-ncijjskOg~,kOkgld-k(FILLER;nUJdNiI :FILL)A,a0d4Ya0EO,E,vLE,cQwgd$EU,d7I,A-O,A-U,YA-O
,YA-d8EO-O,EO-U,EO-EU,YEO-O,YEO-U,O-EO,O-E,O-d6O-O,O-U,YO-d4YO-Ya0YO-YEO,YO-O,YO-I,U-A,U-a0U-EO-Ed
H-d6U-U,YU-A,YU-EO,YU-E,YU-YEO,YU-d6YU-U,YU-I,EU-U,EU-EU,YI-U,I-A,I-d4I-O,I-U,I-EU,I-a)EA,a)EA,a)EA-
EO,a)EA-U,a)EA-Ijla)EaJ-EU,YA-U,YEO-YaR-YaR-YAE;xGtPmHktjskNkOg~,kOkgz]kJk3iujsf)jliMsQz7kt-k(kt-iNm
HkOmHkOncijjsijpdijpeld-mHld-k(k)ktjsk)kNk)nck)ld-hUjliD;nUJcUiI k):id-mHidjsiujsk4kgots7iMPANi
MovlthU;nUJcUiI id-:mHk(k3f)jliMPANiMl~,hU;xGotkJk4k(k4m(,k4kgotiujkktjkldjkiDjkk3PANiMh2-mHh2-iOtPh
2,h2-ovo<,o<jso<pdm(-k3otm(,hU-kNhU-k(hU-kJhU-k3ltkgkt-kNkt-k3kt-l~,kt-ovkt-hUjlij;xF:*b!b7e>H&b5b8H
OA,cgcrclLaXL&ckcpLdZH*Hb!Hb7He>HH&Hb5Hb8HHWg2MU,MI,MaXM&MbBO,MWaTZaTZU,SZI,SZAaTZ&SZbEZcOZdZc)c_c>
RaXR&c<c^RWAaggUIagaT&SbEcOWAd|ecead|Ad~Ed~ebaidZc%QU,QI,QaXQ&QE,QO,QOA,QWA;124AxFQW:I,aX&E;1250xFQ
HaHU,I,aX&E,O;1258xF:QHWA;125AxFQHW:I,aX&E;1260xF:eLU,BI,BAaK&BbxcLWaVaVU,VI,VAaV&dXVO,VdZdedCdoTAa
U&dhdsTWg0CU,CI,CAaL&CbyO,CdZXA,XU,XI,XaXX&XE,XO,XOA,XWA;128AxFXW:I,aX&E;1290xFNwWdZd4d$d7YaXY&d6d8Y
WA;xFohwWWA;xFKwWOA,WA;12B2xFKW:I,aX&E;12B8xFKXaHU,I,aX&E,O;12C0xF:KXWA;12C2xFKXW:I,aX&E;12C8xFWwWO
A;xFPb4YNGE!aHU,I,aX&E,O;12D8xF:ZaWU,ZI,ZAaW&ZbFcPWaW*Zb!Zb7Ze>ZH&ZHbFHcPHdZd4d$d7YaXY&d6d8YOg1DU,bs
DAaM&bpbuDWenenU,Dbsboen&DbpDbuDDdZb^JU,JI,JaXJ&b_JO,JdZe=U,GI,GAaO&GbAO,GOaOWA;1312xFGW:I,aX&E;131
8xF:Ge=GU,GGI,GGAaOG&GGbAGO,GGgwT*Tb!Tb7Te>TH&Tb5gaTHWjBCb!Cb7Ce>CH&CHbyb8g|P*Pb!Pb7Pe>PH&PHbDHcNHd
ZghTSU,TSI,TSAaUS&TSE,TSO,TSWaUZaUZU,TZI,TZAaUZ&TZE,TZO,TZOaNaNU,FI,FAaN&FbzO,FWg3PU,c9PAaS&PbDcNdZ
Rd4MYaNYA;135D:ETHIOPb%sqGEcDg$=w|,row|,roGEcDrjahCsdWORDSPAberMbjMAgPj2j2PREhvj2uT,qzq%;:ETHIO
Pb%mmy+x2E;:ETHIOPb%oIz<Y,mC,t+;1380xF:SEBATBEb[MdZMd1MW&MWEahBATBEb[BWaKd1BW&BWEahBATBEb[FWaNd1FW&F
WEahBATBEb[PWaSd1PW&PWE;:ETHIOPb%dt!kFYIZbUbrbURIKRIKlKRIKRIK,DIFa?KENa?CHIRbUHIDbUbrET-HIDbUKURT;13
A0:Cb6OKEE ~aHn|V,GaPaObAI,GO,GU,GV,*b5b7b8b!HV,cgckclcpcrLV,cvMbBI,MO,MU,cGHfOa2NbCb$cMdGV,QUA,QdJQ
UI,QUO,QUU,QUVgOahaj,SOgUV,bndebpdhbsdobuDU,DV,DLaUcggeTclTcpTcrTLV,ghTSE,TSI,TSO,TSU,TSV,dZd0d1d2WU
,WV,d4d6d7d8d$YV,MV;13F8:Cb6OKEEvNd6d7d8d$YV,MV;1400x$:ki,E,Aa3hZioYjrcVn*&n*I,gZu7d0u9d1vJgyu!d2v
KgzNASb~I gzu5dZvIuagwa3YjrW,tD;x$j^:jIj~twiFqUiFs&iFiF|jI|k]vGbRsYk]xrf5,pU;x$:(b<+$PbDAa3c9Pb*PcNc
VYjrPcVn*H&n*b7PaSAaSu7PWbDu9Pd1PvJPgyPu!PWcNvKPgzPu5PWaSvIPgwYjrPgwP,sjP,n*H,dhTAa3doTb*dsTcVYjrTc
Vn*D&n*bsTaUAaUu7Td0Tu9Td1TvJTgyTu!glTvKTgzTu5TWaUvITuaTgwT,TdhTdoTdsgicbKAa3cdKb*ceKcVYjrKcVftAaPu7
Kd0Ku9Kd1KvJKgyKu!Kd2KvKKgzKu5KWaPvIKuaKgwK,KW;x$Sc2H-SLAVEY K:bIIH,OH,AH;x$:CbyAa3CI,Cb*CO,CcVYjrCc
VCaLAaLu7CWbyu9Cd1CvJCgyCu!Cd2CvKCgzCu5CWaLvICuaCgwCnKdlMbBAa3MI,Mb*MO,McVYjrMcVcvMaXMu7MWbBu9Md1MvJ
MgyMu!Md2MvKMgzMu5MdZMvIMuaMgwM,sjM,MH,AdmPASCa8MnKctbCAAb$b$Ib$cMcVYjrNcVfOAaQu7NWbCu5NWaQvINuaNgwN
,n*NG,NH,ckLAa3clLb*cpLcVYjrLcVcgLaXLu7Ld0Lu9Ld1LvJLgyLu!Ld2LvKLgzLu5LdZLvILgwL,sjL,mWLahagAIaj,Sb*
ScOcVYjrSOOgOAaTu7SWbEu9Sd1SvJSgySu!SWcOvKSgzSu5SWaTvISuaSgwS,AdmPASCa8S,SW,g<FOOT S,MOOSEjrSK;x$NA
Sb~I S:KW,-W,PWaUWaPWaLWA;x$:SHEeaeaIebebOd|d|eod0u8Eaid1u8Iaigyu8IIaid2u8Oaigzu8OOaidZu8eogwu8Aeo,d
6YAa3d7Yb*d8YcVYjrYcVd4YaXYu7Yd0Yu9Yd1YvJYgyYu!Yd2YvKYgzYu5YdZYvIYuaYgwY,BIBLEjrY,sjYnKd7c<Rjrc<sjck
RAa3c>Rb*c^RcVsjcpc)RaXsjcgRvIRgwR,sjR,mWR,FbzAa3FI,Fb*FO,FcVFaNAaNvIFgwF,THbCjrTb5THb$jrTb7THIb$jrT
Hb*gaTHcVT*Te>THvITHgwdlTTb5TTb7TgaTT*TdlTd6Td7Td8TYA;x$cKAVIK H:E,hZiogZ;x$:cKAVUT H,HK,QAa3QI,Qb*Q
O,QcVc%QaXQ,TLb5TLb7TLb8TL*sjc<sjc>sjc^sjRAafAAIafIafIIafOafcVfQNGAAaf,NNGnKSHEnKSHInKSHOnKS*teTb5te
Tb7tegateT*tedlLb7LHb*Lb8LHcVL*Le>LH;x$THjrTH:E,hZiogZ;:x$AIVILIK B;x$g<FOOT :e3O,A,d0d1d2WaQbCb$O,c
GcbcdceKA;x$SAYISI H:e3O,A;x$n*:Gb!Gb8GHbAH&Gb7G*c_c^c<R&c>c)WU,d2d0W&d1dZHWU,Hd2Hd0HW&Hd1HWaUb!gaTb
5TH&Tb7T*TdCTdsTdhTT&TdogiPU,PipP&c9PaS,GU,GO,GbA&GI,GaPb!Kb8Kb5KH&Kb7K*KcfKceKcbKK&KcdKftK,NdGcMbC&
NI,cGMU,MO,MbB&MI,cvd$d8d6Y&d7d4JU;x$:SAYISI JU,n*JO,n*b_n*J&n*JInKJI;x$n*:b^JJU,JJO,Jb_JJ&JJI,
Jb^crcpckL&clLaMcrDcpDckDL&DclDcgLb!Lb8Lb5LH&Lb7L*TLb!TLb8TLb5TLH&TLb7TL*TcrTcpgeTL&TclTLaWU,ZcPbF&Z
I,ZaW,opZ,DZU,DZO,DZE,DZ&DZI,DZAgUcObE&SIagecebd~d~Eeaaieo,TSU,TSO,TSE,TS&TSI,ghCb!CHOd]d]byb7C*TTSU
,TTSO,TTSE,TTS&TTSI,TTSA;x$:CHI?rMQAIafAb$NGb$NGIb$NGcMNGOcMfQNNGAA;x$te:THW&THd1THgyTHd2THgzTHWaU
Hgwj^TH;:x$g<FOOT W,OGb3 SPACE fM;:OGb3o?BEIdlLUIS,FbGNagIL,NI+UAdlDAIR,TINNbyOLL,CEIRT,MUb<GORTafEA
DALgTIF,RUIS,AILM,ONN,dQEADHADH,IODHADH,EABHADH,OR,UILLEANN,IFb<EAMHa9HOLL,PEITH;:OGb3 :FEAf_ h|qJFE
Af_ fM;16A0:RUNsPFEHU FEOH FE F,V,URUZ UR U,d9Y,W,THUc]AZ THURS Tfd,e&ANSUZ aRS O,AC aJESC,tUOc~cOrS
Oc~O,O,cQ+RAIDO RAD REID R,KAUNaL(KAUN K,G,e7GEBO GYFU G,Ga(WUNJO WYNN W,HAGLAZ H,HAEGL H,tUHAGa6 H,
SrSHAGa6 H,NAUDIZ NYD NAUD N,SrSNAUD N,j(-N,ISAZ b?Ic~I,E,JERa8J,G)tUa&AbErSa&A,IWAZ EOH,c8f~PEORdkP
,ALGIZ EOLHX,SOWILO SajGEL tUSOL S,SrSSOL S,C,Z,TIWAZ TIR TYR dcrSTYR T,D,BERKANa8BEORC BJARKa8B,SrS
BJARKa8B,j(-P,fZ-P,EHWAZ EH E,cxNAZ Ma8M,tUMADR M,SrSMADR M,LAUKAZ LAGU LOGR L,j(-L,b>WAZ,foDAGAZ DA
EG D,OTb2a8EdnL O,Ea(IOR,CWEORdlCALC,CEALCal$tUYc&rSd9ICELa!IC-d9Q,X;:RUNb%n0s8,igPcjs8,j7s8,ARLAUGn
HTVIMADURnHbaGTb9nH~K,~SH,~OO;:RUNb%~Fc*KS CASKbT:OS,IS,bIAC,AESC;17aqTAGALOG vukrfQTjCg3Bg2q8Wg4HA;
:TAGALOGubuGUjjt|PAMUDPOD;171bVTAGALOG ~n9RA;:HAcKOO vukrfQTjCg3Bg2q8Wg4HA;:HAcKOOubuGUjjPAMUDPOD;:P
HILIPPINE n0s8,|s8;1740:BUHID vukrfQTjCg3Bg2q8Wg4HA;:BUHIDucI,U;1760:TAGa_WA vukrfQTjCg3Bg2YA;176E:T
AGa_WAo?cgWAag;1772:TAGa_WAucI,U;1780lW~:mFceKHOafO,CjBCO,CHcMd8DaUT*buTgaNNO,m]dsgaNcLaS*PcNb8MO,d
8c^cpVOd|akO,c|*cgQA;lWb=EPbMe8lq:QAQ,QaXQI,Qb*QU,QUK,QUU,QUUV,RY,RYY,LY,LYY,QE,Qa3QOO i9fXQOO i9glQ
AU;lWlqINb6e8A:Q,A;lWx~Y,YY,i!UA,cQd4b&E,AhocVAU;lWiK:NIKAHb]REAHMUK,YUUKALEAPINdCMUUSIKATO$dyISa%a_
TOC,ROBa?TOa!AKHIa?KAKABa?AHSDAagMYOK SANNYaVIRIa7COe7BAdmcza?KH$Ba<YOOS$CAMNUC PII KUUH,LEK TOcLEY
Ya4PHNAEK MU$KOOMUUT;lW:mhYnGRIELjjAVAKRAHASANYl3ATdmCAN;17E0lWmmi?y+x2E;17F0lWSluLEK ATTAKaa+MUOY,
Pb*BEI,BU+PRa7iyMUOY,iyPb*iyBEI,iyBUON;1800st:BIRbZpXj4rMj2hIhkTODO SfUkiajBEq)Bf0ARY fM)mUj4mUrMNIR
UGU;stFREE wPcX:fXglgbE;st:i*slFREE wPcXe<;stmmi?y+x2E;1820st~aHn|cQUhpcGezBg3QaOg2LpwTaMjBb^lrWaNA
,mFghZA,e>Zc)L*Zb7CHI;st~TODO :h?i*?n|cQdJezBg3QaOg2TaMjBb^ghd4WaPaOaXe>JIaQIaMZA;st~SIBbwe3IY,dJU
,ezkrHg3S*Tg1JaNaOaXe>ghZA,RAjBZHA;st~mU:h0RaNaWHA;:st~bg[gke1;1880st~pz:pBfXo&fXDAcydHBADAcvp>UBADA
MaKALUbnk~BALUDaJ,h0NGg0giTTHenaQNaUaMpvSSaW*ZaJH;st~TODO pz:TaWHA;st~mUpz:G*NGg0J*TTen*TaM*SSaLYaW*
ZA;st~:pzhQU,pzhQd4mUpzB*pzDAGALbZmUpzLHA;18B0x$:OY,AY,AAY,WAY,POY,PAY,PWOY,TAY,KAY,KWAY,MAY,NOY,NAY
,LAY,SOYagYebYd|YaiWOY,YOY,YAY,RAY,Nd1qpWb$gyqpgyNd2qpWcMgzqpgzRW&Rd1RgyRd2RgzRWA;x$OJIBWAY :P,T,K,C
,ct,Sai;x$:EASf] W,WESf] W,hzlEiFj^m<e0RjrRu7LcVsjLAaUHd0THWaUTHd0TTHcVTTe>TLHd0TLHOOnKSHWEnKSHOOnK
HcVn*GWU,n*DENE G&n*GaXn*GWAnKJUU,n*JWaKEAVbQDENE L,BEAVbQDENE R,n*DbO!S;190arkBi*-n*ky;:kBzVmEY$zXq
8WwmGY$dw;1920:kBtcaHfeEhocVa]E,O;:LIMBUxDlrWA;1930:kBuX:b|fQpCTaQaSg2c)LA;:kBiK:MUKPHRe7KEMPHRbNag-
I;194arkBiKLOO;1944:kB:w$uT;:kBmmi?y+x2E;:f*LEo?b|XA,fQTSg4d4m]LpvMaNA,dV*QaP*TS*NaJ,I,&bIU,cVO,dJE,
AdJAI;197arf*cj~i5av6;1980:NEW f*LUEo?hVc%fIc%hVb|hVXA,hVfQfIb|fIXA,fIfQhVghhVc|hVd4fIghfIc|fId4h
VdehVT*hVcGfIdefIT*fIcGhVc5hVP*hVcvfIc5fIP*fIcvhVFA,hVdVhVcgfIFA,fIdVfIcghV*hVbnhVa^fI*fIbnfIa^hVKd
VhVXdVfIKdVfIXdVhVSUA,fISUA;19B0:NEW f*LUEuci*d+Rdi)aXb*i!E,Ae5OA,dJAY,AAY,UY,OY,OAY,UEY,IY;:NEW f*L
UE ~j^:Vaf,N,M,K,D,B;:NEW f*LUE i3fM-:1,2;19D0:NEW f*LUE mmi?y+x2E;:NEW f*LUE Tb3 mmONE;19DE:NEW f*L
UEi^LAE:,V;lWSlu:PAdmcza?MUOY h&PII h&BEI h&BUcTh&PRAM h&iyMUOY h&iyPII h&iyBEI h&iyBUcTh&DAP h&eWMU
OY h&eWPII h&eWBEI h&eWBUcTh&eWPRAM h&TUTEYASa?MUOY ROC,PIkkBEkkBUcTROC,PRAM ROC,iyMUOY ROC,iyPIkkiy
BEkkiyBUcTROC,DAP ROC,eWMUOY ROC,eWPIkkeWBEkkeWBUcTROC,eWPRAM ROC;:BUGko~:krfQNGKg3Bg2MPaUg1fORg0JjD
NYCA,q8Vg4A,HA;:BUGkot~fee5AE;1A1E:BUGko:PeudZe6OFnA;q|~:hVb|hVK*hVKXA,fIb|fIKXA,fIK*fQhVCA,hVC*fICA
,fIc|fICHjDRAdehVRa[g1fIRAT*RAcGhVdehVT*fIdefIT*cGa^hVc5hVP*hVFA,fIc5fIFA,fIPHg2fId4hVlrRdJcgLdJdZhV
S*hVSc|hVc|hV*fFA,fI*hZi!&cVLAbAREa>SA;q|:v4mWc)v4mWcgv4LA TeyLAIjjfLKeyLAI;q|v4:j^fQfIc5hVRAdm cXfI
Pg2BAag;1A60:q|iKSAKOT;q|tcaHfLSa?AaUa6 aXhZdJUdJi!O,OA jUOY,E,a0cVa3Tb3 a3OA ABOVE;q|iK:fLKezi51,i5
2,KHUbLi5aw5,c(HAa7fLSa7KHUEN-LUE KAc*;1A7Fq|sqvdbv;q|HOc(mmi?y+x2E;1A90q|Tb3 mmi?y+x2E;1AA0q|iK:W
IezWIa$WAAKagW$KEOW,HOY,DOKMa3qJoYRAcGfLYAMOK,KA$KAANKUUagTKA$SATKAANKUU,HezCAa$;1AB0sq:j)D xkpP-i
Fp<rxjQnee0X-X jUWIGGcsh<jUiqh_jU|iqh_jUkzg^a5Zg$nEg)alRcU g^a5Zg$nEjUm%ESES jF|m%ESES jFm%ESES jUm%
ESES oQxVW jUxVnfW jU>t9jEh)^t9jEk*>t9g) h)^t9g) iEnOl=S jFkRi^jFp>|ARCH jFr=jF|r=jF|r=jUnejHjG;sqx
Voq:G,R,T;1B00q[iK:ULU c?bKULU Ca!RaLECEKamRezBISAH;q[~:AcaaJKeDm^IKAc)IKeDm^UKAc)UKeDm^c(REc5c(REP
A m^LA LEfQLA LbNA m^EcaaJIcaaRcaaRKeDm^ftraA,e=A GORAafg0CA LACA,b^JA JERjDddLATIK,ddMURDraaMA MURD
A ALPAPc*aMA MURDraaQA RAMBa?deddTAWg1DA MADdGg3PA b~a4eLA KEMBezcvq8WaTaIAGaTaIAPg4HA;:q[iKREREKA
N;q[t~m^ULdHLU Sa<amKUamKU ILdTc(REc5c(REPA m^LA LEfQLA LbNA m^TALfoTAL<REPaUAL<m^TAL<REPA m^PEPbUPE
PbTTEDdN;:q[ADEG ADEG;q[~:KAFlAKHOTlATZIRlAEFlAVElAZALlAASYURAlAn9JNYA;1B4Eq[p>Ca<KaaIcdc6ERE
N;q[mmi?y+x2E;q[:PeC,PAMAbnWb=Ud[IK PAMdNKAHd[IK SIKId[IK c6ER(PAcBbN;q[cFtKD:fYe7goezeySURezfoAe7
EgoAfoeyGEDE;q[cFtKro:TEGbIbMbPKEMPUL,KEMPclJEGOG$KEMPUL[JEGOG$KEMPLI[JEGOG$BbMbAcU;q[cFtKk+Hew:iqDU
G,iqDa1mcTUK,mcTAK;q[cFtKh*Hew:iqPeziqPgomcc!K,mcPLUK,iqPb>;q[:PeC ciTezPAMADA ciTezPeC BAWAK;suiKPA
N:YECEK,GLAYa(GWISAD;suvuAe5E,EU,b|QaOAafg0JaWjDTjCg3FaVaKg2q8Wg4XA,HA;suv4PA:Mb>Ka4NYAKRaQYIKU;sutc
PA:NGHULdGYUKdGAELAe7NOLfYMEPEdbEULEdN;suiK:PAMAAbIgvMA;suv4PASa$evcvWA;su~:K*SYA;summi?y+x2E;:suAV
Ab1HA;su~:REU,LEU,B*j^K,j^M;:BATAK ~aHs+A,*s+*h^IL<*a^caO Bg3s+c5cGh^IL<cGdZs+WaSAKPAK dZbZs+bZJg
1c)s+Rg2s+MaTOUf_N TAd_f_N Tg4s+c|h^IL<c|d4s+d4fQcgs+LjDCaQbnMa^I,U;:BATAKlCTOMPI;:BATAKucbDAKPAK hp
I,caO I,O,caO O,dH e*s+SA;:BATAK :v4NG,v4H,Pa$OLa?PANcUONAN;1BFC:BATAKnGBb=U :NA METEK,PINARBORAS,JU
DUL,Pa$OLAT;lXo?ftLaP*e=cgsZJjDiQjCg3PLaS*FaNcgeLLg2McgqXDZA,q8*HLaVpwWaJ;lXxDd4RA;lXucaXI,ioi!E;l
X v4:K,M,L,N,P,R,dbYIN-buKa$;lXlCR$NUKTA;1C3BlX t%:TA-ROL,NYbTTHYOOM TA-ROL,CER-WaUShWCER-WaUSfc;l
X mmi?y+x2E;1C4DlXo?giTT*bo;:OL CHIKI mmi?y+x2E;:OL CHIKrTcga?a1eza4LAaJAK,AAJ,Aa7AAW,clIS,IH,INY,IR
,LdHC,dIUNN,UY,ckbPEDD,(ERR,cpOTT,OB,OV,OH;:OL CHIKI :MU TTUDDa1GAAHLAA TTUboa1MU-GAAHLAA TTUboa1REL
AaSHAARKAaJHaZt%MUCAaZt%|MUCAAD;pjvNo0dXLcU-LEGG%DbCjPO,WfhbRTa6 dhlbLEGG%dhTa6 rPTa6 Ya?UNBLbM%U
K;pj :v3TJv6TJE;1C90:GEORGffMTAVRULIwTz_bzI,YN,ELIFI,nfG$AIN;1CBD:GEORGffMTAVRULIwTA(rPLABIALgG;sut%
Bb=UaaURYaSa$LfYPURNAMaLAKc)LEU SATAfQKaIATAfQDaIATAfQBaIATa$A;1CD0:lo:i3caSHAcGdtEd(c)i3PRENKHl3NIH
SHVASl3YAJURloMIDh<SguTA;:loi3YAJURlo:AGb1VAT%wyIdewyITaPAdmKA wyITA;:loi3:l^jUYAJURloKAdmKA wyITaIC
HROED)|SgudeneSguTaPAdmKA pArwwdw_RIGloKa=MIRI wyITaJTb4VAlowyITA;:loiK:o&Sgudeo&UDAgiqJo&UDAgio&pAq
Jo&pAo&UDATTA[iRo&ANUDATTA[iRpBANTa+OMUK*pBBAHIRGOMUK*pBVAMAGOMUK*pBVAMAGOMUcc[iRTIRYAK,HEXIhHh?p
Ch?pCRTHeyh?pCpBUBHAYAdrMUK*a*HAo(oYa*HAlpA;:lo:i3l^jFiKJIHVAMULIYl3UPADHcxIYl3ATIKRAcvi3s)i3|s)iK|p
BANTa+OMUcc;1D00zAaJE;ydnfAE;zAl(B,C,D,e&E;:xVnf:m8I;zAJ,K,LudM,qJN,O,iqO;:xVSIDEWAYS :O,iqO,Oso
E;ydnfcQyvOUu<qUv+twO;zAP,qJR,nfR,T,U;:xVSIDEWAYS :U,DIAEc=IZ%U,nfM;zAV,W,Z,EZH;jxo?nrLARYNGE!SPIReB
AIN;lTyv:GAMcvchbnc9RHcNSI;:pj yvEL;:wCn):aJbx,l(B,D,E,qJbA,H,I,J,K,L,ct,qJN,O,cZP,R,T,U,W;:qivvA,nf
A,jKnfAbx,D,bEg|m8nfm8G,nfI,K,M,e7O,iqO,qUO,twcN,T,UajDEWAYS U,nfM,V,erBEdehN GAMcvbqdehN Pb7CH
I;jxd<StA~:I,R,U,V;:hNd<StA~:BETaOAMcvRHcNb7CHI;yeUbx[uOD[uOF[uOM[uON[uOP[uOR[uOs!fc=uOS[uOT[uOZ[u
OnfG;:wCpj EN;jxlE:~oqG,~TH[SdyKEnbwiIud~fpud~PzpUsoE;yeuZSdzKbxxEDxEFxEGxEKxELxEMxENxEPxERxESxEbSxE
VxEXxEZxEA[v]g7[v]D[fc=iRE[v]iqE[v]qJiqE[v]SCHWA[v]I[v]iqO[v]bS[v]U[v]p2r]fc;:qivvnfjKC,C[hde&qJm8F
,n^Judm?G,nfH,IudfppbIpbIudJ[umL[v]LxEn)L,MsmnfM[qcN[>hXN[v]n)N,l(cNb7Ssme%TxEU eOo8n)U,VsmnfV,Z,
Z[v]Z[hdEZH,dnTA;sq:mnuAmnukSNAKE g)amSc7iLh|kE-jIb1VE-kE,kE-j~ACUTE-kE,b1VE-ACUTE-j~ACUTE-b1VE-jIxV
R jUbcVE-kE,kE-jZ|rn jFkU jFnvjUb?jUUR jFdRABOVE;sqxV:rJiqn4a0AO,AV,C n+oqD,e&G;sqh( :yvGu<Ku<L,yvL
,yvMu<N,yvN,yvR;sqxV:R k<aT,h?S,Z,jKB,BETaTg|F,L[|uOO[kzg^a5Zg$nFP,e%U[kzg^a5Zg$nFW,A[rsO[rsU[pP;sq
:no jFKAVYKA jEk*KAVYKA jEh)eZjEh)Wfhp>l>jUeZg) h)bqEsd|p>jYjUvZ jU>rgjF^pF=hmrgg);yXA[R<xMA[R<yhBzw
BzLBzxBzMB[y)B[h<yhC[tzxJC[tzygDzwDzLDzxDzMD[y)D[h<yhD[yoD[y0D[zGD[zQE[kE=xRE[kE=ysE[kE=xJE[kE=ygE[z
GE[zQE[lexME[leyhE[tzxNE[tzylFzwFzLG[x>G[yPHzwHzLHzxHzMH[y1H[y]H[yoH[y0H[jYxMH[jYyhI[lexMI[leyhI[vfx
JI[vfygK[xJK[ygKzxKzMK[y)K[h<yhLzxLzMLx9x>Lx9yPL[y)L[h<yhL[zGL[zQM[xJM[ygMzwMzLMzxMzMNzwNzLNzxNzM
N[y)N[h<yhN[zGN[zQw>xJw>ygw>y1w>pPyWkE=xRO[kE=ysO[kE=xJO[kE=ygP[xJP[ygPzwPzLRzwRzLRzxRzMRx9x>Rx9yP
R[y)R[h<yhSzwSzLSzxSzMS[jHewrvuXS[jHewrvv3S[g]=rvuXS[g]=rvv3Sx9rvuXSx9rvv3TzwTzLTzxTzMT[y)T[h<yhT[zG
T[zQU[pP xMU[pP yhU[lexMU[leyhU[zGU[zQU[leewxJU[leewygU[kE=y1U[kE=y]V[x3V[yzVzxVzMW[xRW[ysW[xJW[yg
W[y1W[y]WzwWzLWzxWzMXzwXzLX[y1X[y]YzwYzLZ[y$Z[zeZzxZzMZ[y)Z[y)H[y)T[y1W[s)uXY[s)uXA[s&f&u<h?Szwh?S[z
Bh?S[fai~EwVb4P Su<bqTw2AzxAzMA[y&A[zfyExJyEygyExRyEysyEy&yEzfyEx3yEyzyEeZxMyEeZyhw1xJw1ygw1xRw1ysw
1y&w1zfw1x3w1yzw1eZxMw1eZyhEzxEzME[y&E[zfE[x3E[yzyIxJyIygyIxRyIysyIy&yIzfyIx3yIyzyIeZxMyIeZyhI[y&
I[zfIzxIzMOzxOzMO[y&O[zfyRxJyRygyRxRyRysyRy&yRzfyRx3yRyzyReZxMyReZyhwExJwEygwExRwEyswEy&wEzfwEx3w
EyzwEeZxMwEeZyhUzxUzMU[y&U[zfwOxJwOygwOxRwOyswOy&wOzfwOx3wOyzwOeZxMwOeZyhY[xRY[ysYzxYzMY[y&Y[zfY[x3
Y[yzuPLLu<uPLLwiuPVu<uPVwiY[fHu<Y[fH;x%g7[:k8eXA,r>lnrrlnr>isrrisr>t$rrr<I;yCg7[:k8eXA
,r>lnrrlnr>isrrisr>t$rrr<I;x%ut:k8eXA,r>lnrrlnr>isuoA;1F18yCut:k8eXA,r>lnrrlnr>isuoA;1F20x%p1:k8eXA
,r>lnrrlnr>isrrisr>t$rrr<I;yCp1:k8eXA,r>lnrrlnr>isrrisr>t$rrr<I;x%fp[:k8eXA,r>lnrrlnr>isrrisr>t$rrr<
I;yCfp[:k8eXA,r>lnrrlnr>isrrisr>t$rrr<I;x%uR:k8eXA,r>lnrrlnr>isuoA;1F48yCuR:k8eXA,r>lnrrlnr>isuoA;1F
50x%uZ:k8eXA,r>lnrrlnr>isrrisr>t$rrr<I;1F59:yCuZeXA;1F5B:yCuZrrguA;1F5D:yCuZuoA;1F5F:yCuZrrr<I;x%s5
:k8eXA,r>lnrrlnr>isrrisr>t$rrr<I;yCs5:k8eXA,r>lnrrlnr>isrrisr>t$rrr<I;x%:g7[lng7[isutlnutisp1lnp
1isfp[lnfp[isuRlnuRisuZlnuZiss5lns5OXIA;1F80x%g7[:r>vMeXx&r>gux&rrgux&r>OXIx&uox&r>r<I=vMrrr<I=YPOG
Eb1McBI;yCg7[:r>v?eXyfr>guyfrrguyfr>OXIyfuoyfr>r<I=v?rrr<I=c$SGEb1McBI;x%p1:r>vMeXx&r>gux&rrgux&r>OX
Ix&uox&r>r<I=vMrrr<I=YPOGEb1McBI;yCp1:r>v?eXyfr>guyfrrguyfr>OXIyfuoyfr>r<I=v?rrr<I=c$SGEb1McBI;x%s5
:r>vMeXx&r>gux&rrgux&r>OXIx&uox&r>r<I=vMrrr<I=YPOGEb1McBI;yCs5:r>v?eXyfr>guyfrrguyfr>OXIyfuoyfr>r<
I=v?rrr<I=c$SGEb1McBI;x%g7yagux&vMOXIA=YPOGEb1McBI;1FB6x%g7[r<I:,=YPOGEb1McBI;yCg7yalnisc$SGEb1McB
I;lT:KORONIS,v?k8t$vgr<I;x%p1:gux&vMOXIA=YPOGEb1McBI;1FC6x%p1r<I:,=YPOGEb1McBI;yCut:lnOXIA;yCp1
:lnisc$SGEb1McBI;lTr>:lnisr<I;x%fpyavglnvgOXIA;1FD6x%fp[:t$vgr<I;yCfpyalnOXIA;1FDDlTrr:lnisr<I;x%UPS
ILONyavglnvgOXIA;x%:RHO[k8RHO[eXA,uZt$uZvgr<I;yCUPSILONyalnOXIA;lT:v3RHO[eXA,vglnvgisguA;1FF2x%s5
:gux&vMOXIA=YPOGEb1McBI;1FF6x%s5r<I:,=YPOGEb1McBI;yCuR:lnOXIA;lT:v3s5guw2s5isv3s5v?iseXA;"

end Callwise.CharName

/-!
# Names of hieroglyphs

The code points 13000 to 1AFFF: Egyptian and Anatolian hieroglyphs, Bamum and neighbouring scripts,
and the components of Tangut.
-/

namespace Callwise.CharName

/-- The table of these names, in the order of the code points. -/
def hieroglyphs : String := "
130aqEGYPTffrQ :AlR5,A005aJ006,A006aJ006B,A00aC014,A014aJ015..017,A017aJ018..032,A032aJ03aw040,A040a
J041,A042,A042aJ043,A043aJ044,A045,A045aJ04az070,BlR5,B005aK00az009,Cao,Cap,CapaLapB,CapC,C00awegC01
0aL01as024,DlR8,D008aM009..027,D027aM028..031,D031aM03av034,D034aM035..046,D046aM047,D048,D048aM049
,eV,eVA,eVB,eVC,eVD,eVE,eVF,eVG,eVH,eVI,D051,D052,D052aM053,D054,D054aM055..067,D067aM067B,D067C,D06
7D,D067E,D067F,D067G,D067H,ElR8,E008A,E009,E009A,E010..016,E016A,E017,E017A,E018..020,E020A,E02as028
,E028A,E029..034,E034A,E03az038,Fao,FaoaN00av013,F013aN014..021,F021aN02av031,F031aN03av037,F037aN03
8,F038aN039..045,F045aN046,F046aN047,F047aN048..051,F051aN051B,F051C,F052,F053,GlR6,G006aO007,G007aO
007B,G008..011,G011aO01av020,G020aO02as026,G026aO02aC036,G036aO037,G037aO038..043,G043aO044,G045,G04
5aO04az054,HlR6,H006A,H007,H008,IlR5,I005A,I00az009,I009A,IegI010A,I011,I011A,I01av015,KlR8,Lao,Lap,
LapA,L00aw006,L006A,L007,L008,Mao,MaoA,MaoB,Map,M003,M003A,M004..egM010A,M011,fJ,fJA,fJB,fJC,fJD,fJE
,fJF,fJG,fJH,M01aw015,M015A,M016,M016A,M017,M017A,M018..022,M022A,M023,M024,M024A,M025..028,M028A,M0
29..031,M031A,M032,M033,M033A,M033B,M034..040,M040A,M04as044,N00as018,N018aQ018B,N019..025,N025aQ0
2az033,N033aQ034,N034aQ035,N035aQ036,N037,N037aQ038..042,NLlR5,NL005aQL00az017,NL017aQL018..020,NU0
0asegNU010aQU011,NU011aQU01av018,NU018aQU019..022,NU022aRao,OaoaR00av005,O005aR006,O006aR006B,O006C,
O006D,O006E,O006F,O00aCegO010aR010B,O010C,O01as019,O019aR020,O020aR02as024,O024aR025,O025aR02az029,O
029aR030,O030aR03as033,O033aR034..036,O036aR036B,O036C,O036D,O03aC050,O050aR050B,O051,Pao,PaoaSap,P0
03,P003aS004..011,QlR7,Rao,Rap,RapA,R003,R003A,R003B,R004,R005,R00azegR010A,R01as016,R016A,R01aC029,
Sao,Sap,SapaT00aw006,S006aT00aC014,S014aT014B,S015..017,S017aT018..026,S026aT026B,S02aC035,S035aT0
3az046,TlR3,T003aU004..007,T007aU008,T008aU009,T009aUegT011,T011aU01av016,T016aU01aC032,T032aU033,T0
33aU034..036,UlR6,U006A,U006B,U00aC023,U023A,U024..029,U029A,U030..032,U032A,U03aw042,Vao,VaoaVaoB,
VaoC,VaoD,VaoE,VaoF,VaoG,VaoH,VaoI,Vap,VapaV00aw007,V007aV007B,V008..011,V011aV011B,V011C,V012,V012a
V012B,V01aw020,gtA,gtB,gtC,gtD,gtE,gtF,gtG,gtH,gtI,gtJ,gtK,gtL,V02as023,V023aV024..028,V028aV029,V02
9aV030,V030aV031,V031aV032,V033,V033aV034..037,V037aV038..040,V040A,WlR3,W003A,W004..009,W009A,WegW0
10A,W01as014,W014A,W015..017,W017A,W018,W018A,W019..024,W024A,W025,XlR4,X004A,X004B,X005,X006,X006A,
X007,X008,X008A,Yao,YaoA,Y00av008,Zao,Zap,ZapaWapB,ZapC,ZapD,Z003,Z003aW003B,Z004,Z004aW005,Z005aW0
0az015,gDA,gDB,gDC,gDD,gDE,gDF,gDG,gDH,gDI,gE,gEA,gEB,gEC,gED,gEE,gEF,gEG,gEH,AAlR7,AA007aJA007B,AA0
08..032,V011D,q4fs)sNfs)rUdugIT,rUjXgIT,rUgfbM,rUl<bM,kYY kI,BEGINo]bMo]rUkI,rUTcWrUjX,jTrBe6rBjTWa
6%rBe6Wa6%rBMIRRcXrRLY,FgnBciK,hQBciK,LOST?hQLOST?Ta6 LOST?WfhLOSTgG;:EGYPTffrQ qiDAMAG%a>:dugIT,jXg
ITgST,gfbM,TcWjXgIT=gfbMgST=TcWl<bM,dugIT=l<bM,jXgST=jX,bM,du=bM,jX=bM;:EGYPTffrQ :qiDAMAGED;144aqAN
ATOLffrQ A:00aseg010A,01as026,026A,02aC039,039A,040,041,041A,04av045,045A,046,046A,046B,04aC066,066A
,066B,066C,06aC097,097A,098,098A,099,100,100A,101,101A,102,102A,103,104,104A,104B,104C,105,105A,105B
,106,10aA07A,107B,107C,108..110,110A,110B,11as115,115A,11az125ae5Aaeaz135,135A,13az155,15az202,202A,
202B,20aw20aB07A,20aF09,209A,210..215,215A,216,216A,21aC22aB27A,228..26aB67A,268..289,289A,290..294,
294A,295..299,299A,300..309,309A,310..329,329A,330,331,332A,332B,332C,33aw336,336A,336B,336C,337,33
8..359,359A,360..364,364A,365..368,368A,369..371,371A,37av381,381A,382,383 c(cXc>383A,384..386,386A,
38aC392,393 Eh4394..409,410 jTqbh|410A e6qbh|41as450,450A,45as457,457A,458..497,50as530;161aqGURdN K
HEcu~aHvpsZmE*giTTHenen*dVzXq8SA;:GURdN KHEMAucujhpa3ioAU;:GURdN KHEcu:w|,v4mWd4v4mWdVv4mWHl3pCv4mW
Rl3THOLHOMA;:GURdN KHEcummi?y+x2E;16800x!A :NGKUE MF+GBIEE F+PcTMFcTPIPAEMGBI&PcTMFcTPIPAEMBaQAA MFO
NecENSHUbUTIddMF+NZA MF+SHb=A PA NJI,PcTPA NJI PIPAEMGBI&PcTPA NJI PIPAEMa^fKBGBI&TU fKBAafa$U,fKVEd
UcxSgmMVEUAbNAMahUNYActTOQP(KEUKEUTNDaQKb=IamUafKUENZEdLLAPAQ,LbTKUdbTAP MFaXMAEKEdPPa=a0b0UAERAbDAM
SHAbBcTcHEi%NZUN MEdTU YUQ Na0b0UAEb0gmNTAP NTAAajc|MGBAc|MEUNJOMNDEUQ,MOOMPUQ,KAFaSA LEERAEWaQDA LE
ERAEWaSbUfKKP(NIKaSdPTUAbPLUAbPSONJa7TEUTEUW(MAENd7KEdbDAAcHEi%KUOQ,MOOMEUTaidLLOMMAbzIc>RcSKPOQ,SOQ
,MAP PIEETeaRAbCTAPebQ NSHUT YUctYb[McUKEi$PAa)bCKAARa0UNKNOWN,cH(MAESb$Ja7Ma_Yb$YbUTEUA(ScYPAActSH
I&fK,Nd7KAQ,NS*V&LdG(NAQ,MBAQ;x!B :NSHUbUTU fKGBI&SI&SbTdCLOM NTEdLMBA MAEL&KIEbKYEURAbBBAARa0Ka7PEE
Sb7YAFU LEERAEdZfxNSHUT NYActTIEEd)UOQ,NDU NJaXb0Ub0UAbKPb]TU NSI&SHbTNJAQd~UAEQdCMFcTTEi$MBb[MBAAK
EdbYI NTEdLKEUPUQ,b0UGH(KEUYEdULAANa0c6dLVEUMafKb=I MVcWcHEU MBU,Wi%SAKEgmTAa7MEUQ,cHUOQ,cHUOQ kxMFI
YAQambBBEUc>cETIE(NYAEMAbDdNAa7MEUT cHEbUFEdUMBUOQ,F&KEUAbKcuNJEUAEcGcuNJUc%LbUcHAActS(MaPIQafOM;x!
C :NGKUE fKBaQZA,YdLWa$KUOQ,cH(NDEUAEREe4KAQ,GHa)bBBEEKEbUGBAYb$YIR MKPa)Q MEdMNTU MBb]MBEdLPIRIE(ND
OMBU,MBAA CABBAGE-TR&KEUSHEUAbPGHa%KEUKAQ,YU MUOMAbCZEdLMBUbCSEUA(MBb]YEUQ,KPa)Q,KAAahUd3DIDaUAa=AbC
JUEQ,TIddYUbEi%cHUAbLNYa7VEUd3ANSANAQ,cuKEUAERb$TaXcHU+La%MBIRIE(MGa~AQ,NTEdNBaUEUTEdUcHdLFUbCDEUdb
SaQSHAQ,BgoVEUAEP(MBERa0RdGJAbKfyTITUAEc4SUOT NGOctJEE&KbUcHU,MAESI,MBUAbKcrKUdbJAMafcSWdPcHUEEdbS
OctT(KUOP NKAa)bCSdMNDa7cuNSI&YAaQDAPecEQahTF+MBI,fKa^Ma_d7KEUSEdUMBEdUKEdLMBAA PICKbUYUWOQ,NJEdUMI&
MUAEeaQ,KbLLAW,KbLFATIGUe4AQ,NAQ,LIQ,Pfm(TET;x!D :MBUO,WAc4JI,MF+NJI&LI&NJEUdbSH&cHAAMAbCYa7WUA(NGKU
Nd~e4Ka%KEUAETMEdMTEUTd~gmNJa%SdJKbUYAEMMa0KUcSSa%MFEUdbDEdUcwEEc>MEUTahi$Y(NJEUAbKKEUOT MBUAe4KE
Uc>dCGe>NGKY&FEUFEi%ND&MGBOFdLLEUAEc4D+cEI,MGBEdMPUdTMGBI&MFO,LUctSIEbPMBAaPWAEdbYbUTEUA(ScYYUWOQ,K
EdLRAbKTEEEe4KEi$MFEgmNSIEbUKEdPPIP,PEUTAbCYdJLbUcHAa7MFI&cHWA(YUcSPa%YgpNDActTEdLSgmKdMcHEUXafKI&T
UcYMEdMKUQ,NSdLTEdMMAENJbUcHa%LEdLcHUOctSHUdbJUEQ,b0gmcfRbLOLD,Ta0TOQ,Nd7Rb*LEE&MEE&MamU,MUeaId~dUK
Y&NUaidGT&P&NIebQ,PUQ,MVcWLOQ,RbLMUbfTb$TUU,MBAAabV(SAQ,FAA;x!bwNDa%TO+MBEdLLa%VcSLO+PAaTcSRAQ,NSHgp
NDdMPgmTAMafftPEdUWUcO&cHEi%PAa7TcVKgpLOctSHIEe4cWfKafKEUXafOQ,NSHdJRIMGBaQJEdUPEbKSaXcHURAbBGa^b0U
XafKEUAEctJAEMclMa%LOcYcHEE&NDIQ,TAbLNTEdLSbUPUctDAaIOFTiicHUAbSAE NYa7YI&b0dMTgmYEgmPO,TUMa0KEgmSU
A(TEi$VEgmWEdULAa7PU,TAAQ,GHAAMAe4EUREUTd~i$MGB(MB&NZAQ,NKcSGBbUTdLKUbUYAc4YI CLEAV)Yb]MFEUQ,NDIAQ,P
IEEQ,YUEQ,LEUAbKFUbABEUXafKdPKbUMAe4KAAMI,GHbUFaQTdLPEdTYEdLcHEgmNYI n%NZUQ,PO+MI&FUEdbAbBgmb0gmFU I
,MVI,PUAQafKdLKdTPfjNTa%YEi%cHdPPA PEOPLbzU Ca6,FOctJ&aUOQ,O,I,LAQ,PA PLURa4TAaUAQ,NDAA MY HOUSEeaQ,
YEUXafgmYUA(YOQ SWIMMfoYOQ COV)YUQ,YdMKEdUPEUd3JEE EPObfPdJWUbz&V&crMI,REdURAe4i%NGAebebQ,FU REMEDY
,cGc9LOQ,ceM(cvMAQ,TEU,cdM+T(FAQ,GHOM;x!F :b|U,cf&R&TAbCd7cgRb*RI&MEE&TAaQDAaQJAbKMamUeaIajahdUKY&K
EdbgmNdGJgmYOQec,YaQS*PEUd3T&WUbD&RdGI,REdUK(NGKWA(cHeocNgmFcSdZclLOQ,ceMB(R(cvMO,MBAaUbUKPAagMBaVUE
Q;16A40:MROo?TAafI,d8MIM,Bg1aSb7KHa3HAO,Da3Cb!KEAa0OL,fK,Nb<c5cVO,ROea,dnA,EA,dZE,ceL$cgHa3c>TEK;16A
60:MRO mmi?y+x2E;16A6E:MRO :unDa!A;:Ta$SAo?OZ,OC,OQ,c3AZ,AC,AQ,AX,VZ,VC,VQ,VX,EZ,EC,EQ,EX,IZ,IC,IQ,I
X,UZ,UC,UQ,dUAWZ,AWC,AWQ,AWX,UIZ,UIC,UIQ,UIX,j^NG,h?UEXlKUEZlKAWX,UEC,UEZ,UEQ,UEX,UIUZ,UIUC,UIUQ,UId
UMZ,MC,MQ,MX,mFGAafg4d4WaSjDP*a^kD*cgHTaUg1RaQHeog0ghG*HTm]XaNaMHjBZA;16AC0:Ta$SA mmi?y+x2E;16AD0:a~
SA VAHo?ENNh0SbzA,MBE,YIbAa2DHb*KPa2JO,HWa2WaWO,GBU,bubeUWU,TcLaVU,YEb<c5WADDaJ,ioU,&E,I;16AF0:a~S
A VAH sqhVi4rofIi4rofNi4rocq-fNi4rofa-fIi4p8;16B00ug lqK:EEB,EEV,IB,IV,AUB,AUV,UB,UV,EB,EV,AIB,AIV,O
OB,OOV,AWB,AWV,UaYUAV,OB,OV,IaYIAV,aYAV,WB,WV,AaYAAV;ug rq:VAdGTSa]La]HAdGLa]RAdGKa]QHa]Ya]HLa]
Ma]bgdGCHa]HNa]PLHAdGdmdGa]a]Xa]CAU;ug h_CIM :TUB,SO,KbRccVama7HcSTAUM;uglCVOS THcSVOS TSHAB CEEBg
MbhbKVOS THIaYVOS FEbKXYEEM NTXIV,XYEEM Rb8XYEEM TOV,XYEEM FAIB,VOSabEV,MEEJ SUaYVOS NRUA,IB Ya7XAU
SgMTSOV ROG;16B50ug mmi?y+x2E;16B5Bug oIdiS,mCS,t+S,m1S,onm1S,f?BILLIONS,dyLLIONS;16B63uglCVOS LUB,X
YcVHclf|D-STepHclZWJ dmJ,HNUB,NQIG,XIaYNTUJ,AV,TXHEEJ CEEV,MEEJ TSEEB,Ta]LOS,cFgMHAb?LdRNTOG NTOGgMC
UAM TSHOOJgMTXWVgMTXWV CHWVgMPUB DAWBgMNc= TOS;16B7Dug CcilCTSHEEJ,YEEG,co,LAUJ,XYOOJ,KcVHAWJ,MUAS,T
HOJ,TSaYPHaYKHaYHa7VAJ,FAJ,YAJ,TSWB,KWM,VWJ;16D40pmIlCpCdtc9lpA;pmrTA,vpsZmExZ*zXq8VpwHA;pmIucaXfed
JmsAU;pmIlwt|SAATjjYUc9unDa!A;pmI mmi?y+x2E;16E40tqwTM,S,V,W,ATIU,Z,KP,P,T,G,F,I,K,A,J,bx,C,U,d$L,Q,
Hc4Y,X,D,ObC,R,O,a3Y;tqvNM,S,V,W,ATIU,Z,KP,P,T,G,F,I,K,A,J,bx,C,U,d$L,Q,Hc4Y,X,D,ObC,R,O,a3
Y;tq mmi?y+x2E;tq oIz[f=;tq :j%fWv0j%gkv0j%k~v0j4rMSluAIdVmvi1OH;16F00jy~:c5a^YI PaSLg2M*n9MaNaVaVFa
Ug1YI giYI degiDbnfO*YI NcGn9fOfON*cgLd4L*LHYaUL*DL*TLHYaMLHd4krYI b|c%QbZfQNG*n9fQ*XaO*GH*TSSaMZZjD
NY*TS*DZ*YI TS*YI DZ*REe+%TS*S*SSaW*ZS*ghDZA,YI TSg4ZaWSaWZaWZc|n9ZZaWZYaWZSd4dZa2H*Bc>Sd7DZd7dhTSE,
RTE;16F4Fjy:iKrqqieO~m2g$jjASPIRg$;jyiKREe+%:VOICfoASPIRg$;jyt~gZAHH,$eziod2W,E,(e7OEY,I,IA,I$IezIO
,b&b*IU,fodHA,U$UezUdHEI,goY,d7a0A&ERR,o0ERR,)o0)a3EI,a]OdGaf,UOG,YUI,OG,O)VW,IG,EA,IfYUI;16F8Fjyi3
:k*gfk*jFg);jy~i5:av8;jy~REe+%i5:1,2,4..6,8;16FEarTa$UT v(NUSHU v(fVCHkohWh|fVCHkov(KHIdflEm?FILLER;
16FF0:VIETNAMESE rdREAD<kFCaQHAY;188aqTa$UT bjPONbO-:00as16aE69..368,369..568,569..768;1AFF0:q^~cDNa
8i5av5;1AFF5q^~cDNevi57,i58,m2%i5as5;1AFFDq^~cDNa8m2%i5:7,8;"

end Callwise.CharName

/-!
# Names of cuneiform signs

The code points 12000 to 12FFF: cuneiform signs, numbers and punctuation, and Cypro-Minoan.
-/

namespace Callwise.CharName

/-- The table of these names, in the order of the code points. -/
def cuneiform : String := "
120aqwkA;wkAlIaHeNrN*flkvhOMgsSAG;wkA:2,B;wkABlI:g!DUN3 hOGa4rN*p*IMb<LAGABaie%nknkU;wkA:B hOB2,BnRB
ALa1BnRrNBnRMmr(BnRSHA3,B2 s[D,K,KlIEc[2,K i0d*Tl2GfrL;wk!lg:a4DIM2,Gfr*KAD3,KId~,USH;wYAL$jJAMa(A
Ma&sc$ANi[$a8k~i0,a8ivNAGA qta8ivNAbZa8ivNAGAo|ANSb5APb<ARaZa)D sbARKaYASAL2,eIeHZIDA iUeHKABA iUpGe
HTUG2i[TUG2 TUG2i[TUG2 Pa%pGpGeIpGpGa=q$pGpGeIg!a=GaYa^eNBAG3,BAb42,Ba4B!irBa4BALa1eOBa)2,BI,BooaKoo
Ga(Boop*BU,BnjBU aYBnjBU dMBUq$BU,BULUG,BULUGi[BULUG,BdQBUR2,DaMAG;wkDAG h%5lI:l2MeIAMa(BALa1BI,e=l2
MeIGI,GIR2,GdI*IR,IR ivcrKAK,cgcrLnkMg!LUctbDAP ivPAPaj,iSo7GIR2,USH;wYDa7Da(Da)3,Da)4,bsDIB,DIM,e
YscDIM2,Db<Db+KASK!U GUNU hihiDU,DnjDU,DU hODUo_DUB,DUBlIhsDUB2,DUG,DUGdIDUH,DdMDUN3,DUN3 hODUN3 GUN
U hODUN4,DUR2,E,ElIPa%Ei[E cKi[fTE2;wkEnR:l2Hl2DaOa(MIagLd~,U;wkE:Db<GIR,L,N,NlIGAN2,NlIrNNlIMbCq$(
N qt(No|R(c[2ai2,ZEN;wkEZENlIaHl2La4l2L!lgLa4$eNDUN3 hODUN3 GUNU hO*HA hOp*mGKASKALo|KU3,cgL!lgLa4cl
LdH2,UD;wkGA:, hO2;wkGAnR:l2Dl2*l2*l2flAB2 dinkTaY$eIa=2 ivGa4eNBa&ivRaKdQBUR ivRg1bseYscDUB,bJE
L ivcg(ENlIrNrNGa(GI,GI4,GI4 ivaOIR2 ivSU,Hl2LnkhsHa4H!ivcgHI ivclHUB2,p*fqivHnkeIKAK,mGKID,KID ivLa
4KU3 iv$cgMmr(MI,fTcKi[fTPAagLagRd~aimrdDeaD,SdLiSU,dIUD ivDU;wkG:A2i[GA2,ABaJBAq$GAa^aZADi[GAD uza
4!GADi[GAD uzAfya7$AN2,AN2 iUAN2i[GAN2,AN2q$GAN2,a(AR3,a=$bSTb<bSTb+sbI,ooE,ooU,Iq$GI,I4,I4i[GI4,I
4q$GI4,IDIM,IR2,IR2 hOIR3;wkGIR3lI:l2flrNflLnkflPA;wYGISa4GfrGISHq$GfrGfqlgeNGfqs[GfqiUGU,GUq$GU,GU2
,GUnRKAK,GUnRKAKlIp*GUnRfTGUnRS!ivTUG2,GU2 hOGdIGUDlIl2KdQGUD sbGUDi[GUD LUGa4GUL,GdLGdKscGdQGUR7,GU
RdMGURgs*HA iUHA hOHa4HI;wkHoo:eIg!eNhiGaZKb<cKd~,U;wYb!HUB2;wkHUBnR:$Ha4mGLfrUD;wYHUL2,I,I A,IB,IDI
M,IeYirIeYBdQIeYirIDIMo|IG,flIGI DIB,IGI c>IGIi[IGId*R f3d*R UDi[dIp*IL,ILlIrNIL2,IM,IM s[IMq$IM,I
M qtIM,IMo|IMb<b<IR,frKA;wkKAlIaHaZAD ivKU3,g!eNBALa1eOBI,Ec[2,hse=a4rNGa(Ga&f5d(3 ivaOI,GIR2,Gfqiv
Sa(GISHq$GfrGU,GUR7,flIM,KAK,cdKID,clcrMbBmrDU,MmrGI,MmrTbBI,MI ivcKUZ,NE,fTc9RUgOARd|d~eaDecajGamHd
Qf<dH2,dIUMq2c5gsZI;wYKA2,KA2q$KA2,KaYKADav5,KAD5i[KAD5,KAK,KAKlIp*Ka4K!lgeNKALq$Ka4KAM2,KAM4,mGKAS
K!tRnjtRU,KASK!irKASK!tRnjtRU,KhscdKooeNKooU,KoodIKID,Kb<KISa4Kfrh%5,h%5i[h%5,cfKnjHooa=2 KnjHoog!KU
3,KU4,KU4 o!e+,KU7,KUL,KUL hOKdMKdQKUR qtKdQmLKWU318,cgLAGAB;wktRaHl2Dl2*l2Ga(l2La4a4$eHZIDA iUeNBI,
Da((e=a(GdIGUD ivGdI*Ha4HoofTp*IM,IM iv*IM ivcrcdKb<KU3,KUL,KUL ivHI ivA,LAGaYLfrcrLUL,MbBmr(MgsN
EaimrSUMeaTl2GfqivEc[2eaTl2GfqdiUec2aio7SHU2,SdLTa1iSTmrl2SnkcGU,nkA,nknkU,o7eIdIUSH;wYLAGABo|LA
Ga(kvsckvi0acmrSdLkvhOkvGUNnjkvGUNUd),LAHSb!La4L!lgLa4fyfxsbchlIKUR ivc_clLIL,LIMMU2,LfrcrLUlIeNLU
2;wkr4:a4eNhsbS2 iUrNHooeNIM,KAD2,KAD3,KAD3 iveIcdLl2eILAGaYMmr(NbCUaj iva=ajK2 ivBU,TUG2;wYLU2 iULU
2q$LU2,LU2 qtLU2,LU2o|LU2o_LU3,LUGa4LUG!irLUGa4LUG!qtLUGa4LUGALo_LUH,LUL,LdLLUMi[LdLLUMi[Ld
Kuzcvcus[cuhOMA2,Ma2Ma(MeIMg!MbBbRMI,Mb<MU,MnjMU,MUG,MUG hOMUNSUB,MURGU2,MgsMshA,MshKdQMshZA,cFHi[
MgscFHi[Mshl2cGcFHq$MgscFH3,cFH3lIA,cFH3lIl2bscFH3lIbscFH3 hOfOA2,NAGaQAGA INdYTbHNAGAlISHU iUNAG
A qtNAGaQAGa(NAM NUdqLdGActAM2,NbCElIaQElIdINEo_Nb$oobCI2,NIctIMlIrNNIMlIGa&ivrNNb=A2;wkNb=AnR:$eIe
HiveIGdIMmrrNNE,cKd~aimrA $SHmra=aimreHiveIo7eIUSH;wkN:ISa1dH11,UN;wkcK kvlg:Ga(MeISa4S!ircK kvlgSa4
USH;wkcK: iUi[fTq$fTq$cK kvirLAGa(UZ;wkcKUZ ABnR:a=GaYBI,DUG,GdIp*KAD3,LaQEajLA3,U2;wYcKUZ h%5lIBI,c
KUZ h%5lIBI U,PaSaZP$Pa%PhsPI;wkPooaHaYBI,BU,e3IB,dH2;wYPIq$c9PIRIG,PIRIGlIKa4PIRIGlIdIPIRIGlIZaSIRI
G qtPIRIG,c)RaYc>RUgOAG NUdqLUagG;wkSAGlI:aMU,DUB,*KAK,KdQLdLMI,cKagLeaD,TaYU2,UB,dLdQUSH;wkS:AGi[Sa
1AG hOa4!tRg!a$A2,a(*HA3;wkSHA3lIaHeNGfrNEec2,TdQU,nkA;wkSH:A6,AB6,AR2,E,E b!E f3d) GADi[GAD uzE f
3d) TABi[TAB uzEG9,(e%hsbSfyID,IDlIA,IDlIIM,IM;wkSHIMlIema4BULUG,Db<Ga(flp*mLLUL,MUGagL;wYSHINIGea
ReaR diUeaR f3d*R BURi[BUReaTAecainjp>SHUec2ecBURajaj hOSIGajG4ajG4i[SIG4acU2ajK2ajLA3gUnjSUamDamD
2amHURamMamMa=amRamR9,deddpHTAlIb7TAlIMI,ddhOTaYTABi[TAB NIi[NI DfqirhiTABo|TAG;wkTAGlI:BI,GUDd~ec,T
UG2,UD;wYiSf<dhdghOdoTI iUdq,TIR,TIR s[TIRi[TIR,TIRi[TIR GADi[GAD uzdCTUG2,TUK,TdLTdQdDi[dD ZAi[ZA,d
H GdIU U U,njU PAi[PA uznjU SURi[SdQnjU U oXi[U oX,U2,UB,dIUD mLUDlIeNUDlIMI,UDlInknkdHDlInknkU hOU
D hOUDo_UDacbSIGlIeNUDUG,dLq2LAGaYq2Mmrbnq2SHA3,q2dHMBb<UMdLUMq2mGUMq2c5dMUN hOdQURq$dQURo_UR2;wkURn
R:l2*l2cGa4*fTU2,o7eIo7BI;wkUR:4,I,I3,U;wkURUlIaHa=GaYeODdMe=a4rNGa(GU,*flIM,frcdLdLMfmAd~ajG4,dCnk
GdIdIURUDA;wYURUbnURUDAlIU,gsshA,shcfshKdQshiSUSHX,USH2,USHUMX,UTUcdUZ3,UZ3lImGUZU,ZaWA iUZAi|%sbZa1
ZAMX,ZE2,ZI,ZIi[ZI,ZI3,ZIB,ZIB KABA iUZIG,ZIZ2,ZU,ZU5,ZU5lIaWUBdQZdLb~ EchIdhABlIfTABnRaJcylIKUG,DA
G h%5lIo7MeIDAG3,DfqivSb!DUB scEZENlIGdIEZbLscGAnRa8ivKAK ivaOAnRg!GE22,GIG,HUSH;wkKAlI:ANSb5a=3,Gfr
GdIHoog!LdLPAecL,TdHR2;wYtRGI,LU2acbSIGlIeNr4bS2 ivLa4r4Sb!Me%cFH3lIZaQA4,Nb<cI9,Nb=AnRBa4Nb=AnRGb$U
11 y6PbS2 pHPIR2agGlIp*TI2,q2cAU U;124aqCUNEIhHinIClCgkeIk~eIhIa=jga=gQa=lJeIj+a=jheIk~hihIhihCbtHg
QbtHlJhij+hiikhihIUjgUgQUlJU,j+UjhU,fWGhsgkGhsk~GhshIGhshCGbS2gQGbS2lJGhsj+GhsikGhsfWGESb!gkGESb!k~G
ESb!hIGbSUjgGESb!dEd(R2,k~Sb42,k~Sb42 o!e+,e<d(R2jgSb42edd(R2jid(R2,j+Sb42jhSb42,ONEd(c_dEd(c_gb
Ed(c_k~Sb4vC,e<d(RUjgSb4Ud|RnRG!ivhiSb4nRG!ivMb<fWBUc_gkBUc_k~BUc_k~BURvC,hIBURUjgBUc_k~u0bS16,k~u0b
S21,yrMU,yrMU4,yrMU A,yrMU BgQu0a=9lJu0IcD3lJu0IMb+AlJu0IMb+B,j+u0USSU,j+u0USSU3jhu0ILIMMUjhu0ILIMMU
3jhu0ILIMMU4jhu0ILIMMU A,gkeHiUk~eHiUhIeHiUhCeHdiUgQeHiUfWa_2,gka_2,k~a_2,hIa_2,hIa_2 o!e+jga_2jga_
2 o!bYctIGIDAMb<NIGIDAe%fWbSE3,gkbSE3,fWk_hiq0S hihCSIXTHS hifWk_u0A,q0S u0A,fWj< eIfWoUeIfVASSYRffm
7dlfVASSYRfft6fWoUGdQoL GdQEchIdgfWf|D,EchIdgq0S,EchIdgbYTY,EchIdgj]hIvCjgvCgQvClJvC,j+vCjhvC;12470:
CUNEIhHs8i^gYASSYRIANjdhj)q4j2pQj2pQdyj2pQf8ha;12480wYABlIcK iUABlISHU2,ADlIhsBADlIDfqiUBAb4nRAB2,B
Ab4nRNI,BAb4nRZaKnjBUlINA2,DA s[DAG sbeYlgfleYlgU U U,DIMnRUD;wkDUGlI:ANSb5eIeHa>h)Db<DdMEc[2,e=I,GI
R2 hOGfr*b7p*mGKdQmLKUSHo7mGfw020,fyfxsbLUH ivGfrMeIMbRMb$I,PId~aj GUNU;wkE:2 sbnRPa%c[2 Xai2q$bS
2;wkEZENacbSIGlI:eIb7p*cgLa4MbBESam;wYEZENlISU;wkGAnR:BAb42,eYhODUGlIp*DUGlImGER(e=a&ivbsGa&ivNE,Hl
2aPUSHo7mGfyfxsbLUH,MgsNbCmrE2,NmrGIeaM,ZIZ2;wYGABA y6GbSTINlIU,GfqlgGISHq$GfrGUnRp*GUD ivGfqs[HA di
U hOHoopGHooeIKAlIBU,KAlIftAlIU U U,KAlIdQtRZnjZU;wkfw:003,021,025,030,050,051,062,079i[fw079 hO080,
081i[fw081,092,130,142,210,219,220,225,22aF3aF65,266,343,34ei8,383,384,390,441,449,449lIGU,449lIfl44
9lIPAP ivLU3,449lIPAP ivPAP ivLU3,449lIo7a^450,457,470,483,490,492,493,495,550,608,617;wkfw617lI:eIe
NDUN3 GUNU hOKU3,cgf<dhU2,dIURUDA;wkfw6:36,48;wkfw648lI:DUB,bZflp*NI,PAP ivPAP ivLU3aibS ivcddIURUD
A;wYfw724,fw749,LU2 GUNUlIeIr4hir4Ha4r4Pa%r4PAP ivPAP ivLU3,r4iSMI ivZA7,cFHi[MshbZcFHi[MshKAK;wkNb=
AnR:eYhOGfrGUL,b7Khsfw050,MeIPAP ivPa%U,nkdHRUDA;wYSAG GUNUlI*SAGlI(SAG i0d) a>fBagG s[SHA6 diUd~ f
3d)aimrHUB2aimrNAM2aimrSARaio7DUGlINIaio7EnR$SI s[TAK4 ivSa1Tq2rNTq2k~hiUR2 INdYTbHURnRdIURUlIDa)3,U
RUlIfw668,URUlILU3,ZA7,ZnjZnkSa(ZU5lIk~DfqdiU;12F90:CYc$-cDOANi^CM:ao,ap,004..012,012B,013,015,017,0
19,021,02aw030,03aw041,044,046,047,049..056,058..064,06az075,075B,076,078..092,094..105,10aC110,112,
114,301,302;"

end Callwise.CharName

/-!
# Names of characters in South Asian scripts

The code points 900 to 109F: the scripts of India and its neighbours, from Devanagari to Myanmar.
-/

namespace Callwise.CharName

/-- The table of these names, in the order of the code points. -/
def southAsia : String := "
900srlCp>tyymlpA;sro?k]aJ,ujxAL,l^ElKE,hol^OlKO,O,z+yOaQNcGw[lrRc)cgfFLfFvDHA;srubOusOOEjjkQiKAVAb1H
A;sr z$R,l^ElKE,hol^OlKO,O,AU;srlwnptcPc]HTb3ATc(usAW,OMalc=Si^UDAgiSTc=Si^pAuAuktcl^h?usUusUUE;sro?
QaPH*GH*ZenD*R*FA,Yd4o)Rr[LL;sr tco)L:,L;sr :unDa!A;sr mmi?y+x2E;sr :tr?iKhVSPAC<bv;sro?l^A,cQOcQAW
,dJUdJcyWa< DDaW*keYaObZJb^tD,DDDaKBA;pg:ANJIjjtyiKx(A;985pg~aHujxAL;98Fpg~:E,AI;993pg~:O,z+yOA;9A
Apg~:w[d4RA;9B2:pg~LA;9B6pg~:S*SSg4HA;9BCpgiK:kQAVAb1HA;pgz$R;9C7pgt~E,AI;9CBpg:tcO,tcAUjjnp~Ke]A T
A;9D7:pgAU LbNdkfM;9DCpg~R:c)HA;9DFpg~:Yd4o)Rr[LL;pgtco)L:,L;9E6pgmmi?y+x2E;pg~RA[:mZn>,kCn>;pgi
H :h|Sb);pgmhY inATcX:xw,fWfD THa8f^DENOcDAdv;pg:mhY DENOcDATcXSIXiTISSHa(Ga!A h|~lopCtr?SjMfM;A01nT
IlCADAK BINbsBINbslpA;A05xbgZhZdHU;A0Fxb&AI;A13xbcVz+yOA;A2Axbw[d4RA;A32xbcgLLA;A35xbVAd|;A38xbc|HA;
A3CnTIlwNUKTA;A3EnTI x~dHU;A47nTIuc&AI;A4BnTIubcVtcAUjjgvMA;A51nTIlwUDAAT;A59xbKH*GH*ZA,RRA;A5ExbFA;
A66nTI mmi?y+x2E;nTI :TIPc9AboK,Ic>Uc)EK ONcajjYAKeItrgG;A81pllCymlpA;A85ply9xAL;:pl lql^E;A8Fpl :~E
,~a3lql^O;A93plo?O,z+yOA;AAAplo?w[d4RA;AB2plo?cgLLA;AB5plo?vDHA;ABCpllCkQAVAb1HA;pl z$R,l^E;AC
7pluchol^O;ACBplubO,tcAUjjgvMA;AD0:pl OM;AE0plo?o)Rr[LL;pl tco)L:,L;AE6pl mmi?y+x2E;pl :tr?iHgG;AF
9plo?ZHA;pllCSUKUNd|Dbnh[H,lbeZNUKTn4maNUKTn4dE-maNUKddABOVE;B01jzlCymlpA;B05jzy9xAL;B0FvUE,AI;B13vU
O,z+yOA;B2AvUw[d4RA;B32vUcgLLA;B35vUvDHA;B3CjzlCkQAVAb1HA;jz z$R;B47jzucE,AI;B4BjzubO,tcAUjjgvMA;B5
5jzlwqyAI LbNdkh|AU LbNdkfM;B5CvURc)RHA;B5FvUYd4o)Rr[LL;jz tco)L:,L;B66jz mmi?y+x2E;jz :ISSHa(~W
A;jz p6:t6oL,wam7f=naj<,k~SIXf=THS;B82l0:iKx(A;B85vWgZhZdHU;B8EvWhpAI;B92vWioa]KA;B99vWfQCA;B9CvWJA;
B9EvWNYaUTA;BA3vWNNaUA;BA8vWfONNaSA;BAEvWcvlrRc)cgfFLfFvDHA;BBEl0x~dHU;BC6l0t~hpAI;BCAl0:tcO,tccVtcA
UjjgvMA;BD0:l0OM;BD7:l0AU LbNdkfM;BE6l0mmi?y+x2E;l0oIT(t5fWo3;l0:DAY?cETH?YbG?DEBIT?blDIT?AS ABOVE?i
H?kRgG;C00l1i^sqtxjFymo(ropBABOVE;l1y9xAL;C0El1o?hpAI;C12l1o?ioz+yOA;C2Al1o?w[lrRc)cgfFLfFvDHA;C3Cl
1lCkQAVAb1HA;l1 z$R;C46l1uchpAI;C4Al1ubO,tccVtcAUjjgvMA;C55l1 :LbNdkh|AI LbNdkfM;C58l1o?ghDZA,RRRA;C
5D:l1 ~NAKAeDPOLLU;C60l1 ~o):RR,LL;l1 tco)L:,L;C66l1 mmi?y+x2E;C77l1lCSIDDb3;l1 p6mmZERO y2fWy2gky
2k~y2fWe*huv>gke*huv>k~e*huPOWERS cRe<;l1lCTUUMU;nWlCSPAC<tyymo(SIDDb3;nWy9xAL;C8EnWo?hpAI;C92n
Wo?ioz+yOA;CAAnWo?w[lrRc)cgLLA;CB5nWo?vDHA;CBCnWlCkQAVAb1HA;nW z$R;CC6nWuchpAI;CCAnWucioAU;nWlwgvMA;
CD5nW :LbNdkh|AI LbNdkfM;CDDnWo?NAKAeDPOLcrFA;CE0nWo?o)Rr[LL;nW tco)L:,L;CE6nW mmi?y+x2E;CF1nWlCJIHV
AMULId4UPADHcxId4ropBjEiE;D00ssiKsql8n4ymlpA;ss~:lopCA,ujxAL;D0Ess~:hpAI;D12ss~:ioz+yOaQNcGw[lr
Rc)cgfFLfFVwmTTTA;ssiK:u2npeSi&npAVAb1HA;ssz$R;D46sst~hpAI;D4Ass:tcO,tccVtcAUjjnp~eZREPHjjPa);D54ss~
CHILLU :M,Y,LLL;:ssAU LbNdkfM;ssp6:fWONE-mC-a!-SIXTIEnabYTIe&k~Eb(TIETHS,fWi8IEnadidlk~i8IETHS,fWFIF
TH;ss~:n9b*o)Rr[LL;sstco)L:,L;D66ssmmi?y+x2E;ssoIT(t5fWo3;ssp6:t6oL,wam7f=naj<,k~SIXf=THS;:ssDeJf
M;ss~CHILLU :NN,N,RR,L,LL,K;D81priK:tyl8Ad4lpAYA;D85pr~:l%Al%AElsAEElsIlsIIlsUlsUUlsIRUlsIRUUlsILUls
ILUUlsElsEElsAIlsOlsOOlsAUd5NA;D9Apr~:ALPAPRAANA KxLKxjGxLGl%KANTAJA NAASIKYAYAagNYAKA GxjCxLCxjJxL
Jl%TAALUJA NAASIKYAYaUAALUJaIANYOOGA NAAKSIKYAYAagNYAKA JxjTTxLTTxjDDxLDDl%MUURDHAJA Nl%SANYAKA DDxj
TxLTxjDxLDl%DANTAJA NAd5NA;DB3pr~:SANYAKA DxjPxLPxjBxLBl%Ml%AMBA Bl%Yl%RAd5NA;DBD:pr~DANTAJA LAd5NA;
DC0pr~:Vl%TAALUJaIl%MUURDHAJaIl%DANTAJaIl%Hl%MUURDHAJA Ll%FAd5NA;DCA:priKAL-LAKUNA;DCFprt~AELAlPKETT
I AEDAlPDIGA AEDAlPKETTI ISlPDIGA ISlPKETTI PAA-PILLA;DD6prt~DIGA PAA-PILLA;DD8prt~GAETTAlPKOMBUVaMI
GA KOMBUVaPOMBU DEftOMBUVA HAA AELAlPKOMBUVA HAA DIGA AELAlPKOMBUVA HAA GAd5UKIgiGAd5UKITTA;DE6prL
Idkmmi?y+x2E;DF2prtcDIGA GA:ETTAlPd5UKITTA;:prt%KUNDDa5YA;E01:dmI Cp!:KO Ka3KHO KHa3KHO KHUa?KHO KH
Wa3KHO KH+KHO RAKHa$afO NGU,CHO CH$CHO CHfoCHO CHezSO SO,CHO CHcQYO YfoDO bgbndrPATAK,f~TH$f~Na$c
Egaf~PHUdmcMO N(DO DEK,drTAO,f~THgof~dmH$f~THfYNO NU,BO BAIMa3PO PLaSHO PHgoFO FaSHO PH$FO F$PHO SAM
PHAO,MO cvYO YAK,RO RUA,c_LO LfocrWO WA(SO SALaTO RUSI,SO SUA,HO HIP,LO CHULaR ezHO NOKHUK,PAId5NOI,
SeDA,fLHAN-AKAdceDAaTeDa7SeDI,SeDb*SeDUbEeDU&SeDU,SeDUU,PHINTHU;E3bVdmI mhYnGBAHT;:dmI Cp!:SeDbEeDAb
EeDcOeDAI MAIMU$SeDAI MAIcwa3LAKKHa$YAO,MAIYAMOK,MAITAIKb!fLEK,fLgafLTc>fLbgTTAdZdmNdmccdbIccHb]YAMA
KK$FcUcx;:dmI mmi?y+x2E;:dmI Cp!:a$ccNKb!KHOMUT;E81gX~:ceKHO SdN;E84:gX~KHO TAM;E86gX~:itG*NGO,CO,it
C*SO TAM;E8CgX~:itJ*Nd8itNd4itgiitTT*itDbnitDD*itNcGbudsf~Sgof~Ta7itD*NcLcNcNHO SgoFO Ta7PHO Ta7F
O SgoitB*MO,d8LO Lb>;EA5:gX~LO LOOT;EA7gX~:WOagNSKRITd(agNSKRb[SSaTO SgoHO SgoitfFO,HO TAM;:gXj=IS;g
XtcaHfLK$aXa7hZY,YY,dHU;gX:iKitnptcfLKONgPtcLOgPtcNYO;EC0gXt~E,EI,O,AY,AI;EC6:gXKO LA;EC8gXi3fL:EK
,gadoCATAWA;gX:Ca9ELLAsdNIGGAHIdeYAMAKKAN;ED0gXmmi?y+x2E;EDCgXHO :NO,MO;gX~KHMU :GcMYO;Faqn3q)O
M;pth_Gf[o=:TRUNCAT%A,-dKRNAM BCAD cv-dKGf[i7 MA;ptkFopo=MDUN cveT<o=SGAB MAd[bTo=PHURd(D cvo=i7d(
D MaTBRULi]BSKUR YIG MGcLKA-d+G YIG MGO,h7SYLLABb%i7,bqIMIf[i7 BSf<SHaZNYISi]i7i]NYb?i7i]Rb+CHbLSPdN
Si]RGYA b1Mi]bdbT-DZUD k>ME h?C$Gf[i7;ptLOGOi9iK:bgD k?LHAG RTAGS;ptASdzoAiK:SGc(GCa8-CHa&k?-KHYU
D PaTDcU TSHUGS;n3i^Rbq :DKa&GCIG,DKa&GNYIS,DKa&GSUctAG GCIG,NAG GNYIS,DKa&Rbq NAG;ptmmi?y+x2E;ptj%h
Q:z%ZERO;ptkFBSDdRk?NGAS BZdN NYI ZLAd[bT-DZUD k>BZHI MIG C$NGAS BZdN SGcXk?bh MGO,TSA -PHc_GUG k>G
Y+GUG k>GYAS,eyKHeyGY+eyKHeyGYAS;n3lCYa&TSHbRMa&TSHES;ptzVJA;F49n3o?xZz*aMZ*u6lrLwmaPSSaNIXED-hHRa
Pb|RRA;F71ptz>hpO,OO;n3lwRJES SU NGA ROjjRNAM BCaZtcqJuGqJIIjjNYI ZLA NAA Dl3SNA LD$h_HAcideh_PALUT
A;n3lCLCI k?Yeyk?LCE TSA C$kG$GRU Ca8RGYb>S,GRU M%RGYb>S,p>kGAN;n3d<kqlCLCE TSA C$kG$p>kGAN;n3xDvpsZ
JA;F99n3xDxZz*aMZ*u6lrLwmaPSSaNIXED-hHWaNIXED-hHYaNIXED-hHRA;FBEptKU RU cc:, BZHI MIG CAN;ptCeCL
Lg$i^lUBEa?kzBEa?CeyTE-U,SBUB -Cb2;n3nG:DRIL BU,RDO RJbDADcuGD$RDO RJE RGYA GRa7PHUR PAd_ BUd_ BU N
Yb?-KHYILd_ BU GSdK-KHYILd_ BU BZHI -KHYIL;FCEn3i^Rbq NAG :Rbq DKa(GSUM;ptkFBSKA-d+G GI MGO RGY$MNYA
M YIG GI MGO RGY$NYb?i7,opBRDA RNY<o=MDUN cveT<BRDA RNY<o=SGAB MA;::k+uv?h*uv?k+uvgG[hkh*uvgG[e1;ptk
FLEAD<MCHa8k?dwIL<MCHa8RTAGS;1000pozVmENYaQxZz)Wg4*fFeoa8A,hZi!bBcTe5AU;nXucTa6 aXujhoMcTb*McTO,E AB
OVE;nXlCpCrwo(npASAT;pov4mW:lrdZHA;:po~GREa>SA;pommi?y+x2E;nXlCfELEnAahCgd;nXnG:LOCATIdXj5TbHAbYEc
BgdbHGENITIVE;nXo?S*Sc|xARr[L,o)LL;nXucxARr[L,o)LL;po~McT:fQJ*BeLBE;pov4McTmW:Ng2LA;po:~SGAW cabL
S*tcSGAW cabLEU;poi3h_SGAW cabL:HATb7KE PHO;po~WESt<bL:T*PWA;potcWESt<bL:EdHE;nXlwWESt<bLi5as5;po~EA
St<bL:NcGYWaOHWA;nXucGEBA cabLI,KAYAH cQKAYAH U,KAYAH EE;po~SHevmFGg0ZaQYjCaS*FaKaU*HA;pov4SHevmWW
A;potcSHevaXE,E jFj^Y;nXgGaca8i5:2,3,5,6;nXgGaca8Cc0CIL :i52,i53,EMPHATb%dtE;po:~RUfLPALAdN Fl3RUfLP
ALAdN i55;nXaca8mmi?y+x2E;nXi^ks i5:1,3;potcAITcT:aJI;nXlHacevfXmvgd;"

end Callwise.CharName

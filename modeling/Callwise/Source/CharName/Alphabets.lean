/-!
# Names of characters in the European and Middle Eastern alphabets

The code points 0 to 8FF: Latin, Greek, Cyrillic, Armenian, Hebrew, Arabic and Syriac letters with
their accents and marks.
-/

namespace Callwise.CharName

/-- The table of these names, in the order of the code points. -/
def alphabets : String := "
20aGPAbew$v[kR?DOLLAR?c8CbO?jLexszzZpHf5?j4ki-ie,rMSOLIDUS;:mmi?y+x2E;::hagPj2p|?sF,tE?uT,bjMERCI!A
T;yYaK,C,D,bz,G,H,I,J,K,L,ct,cN,Q,c&,r_Y,Z;::fBvO,wIiEvO,xkqeb1dWjG;yeaK,C,D,bz,G,H,I,J,K,L,ct,cN,Q
,c&,r_Y,Z;::>j8n&vF^j8n&dqDE;AarNO-bcAKlGp>w$CbO?Pf0?mhY?YEN?l?a|ahCgd?rsCOPYiE?FEMIikORDIN!p+,vs|j
Nv[cJ?SfUki,REGISdjED?kE,hfE?f5-iegGuedEuelaukic?PILCROW?sYn+Ss|fXczCUh<ORDIN!p+,v_|jNiCqS;:VULGa&p6
:t6oL,k~m+S;::p>uT;yYA[j~A[jIA[rn,A[lfA[rsA[s)Aby[n+E[j~E[jIE[rn,E[rsI[j~I[jII[rn,I[rse&N[dqDE;:ytO[
:j~jIrn,lfpP;::igqBgG;yXOzpU[ysU[ygU[zeU[y]Y[ygTfd;yeSb4P S,A[j~A[jIA[rn,A[lfA[rsA[s)Aby[n+E[j~E[jI
E[rn,E[rsI[j~I[jII[rn,I[rse&N[dqDE;:xVO[:j~jIrn,lfpP;::n]gG;ydOzaU[xRU[xJU[y$U[y1Y[xJTfdu<Y[y]A[x>
A[yPA[xNA[ylA[kUu<A[kUwiC[xJC[ygC[y$C[zeCzwCzLC[xOC[ynD[xOD[ynDzaDzpE[x>E[yPE[xNE[ylEzwEzLE[kUu<E[k
UwiE[xOE[ynG[y$G[zeG[xNG[ylGzwGzLG[yoG[y0H[y$H[zeHzaHzpI[x3I[yzI[x>I[yPI[xNI[ylI[kUu<I[kUwiIzwn^
Ipbp~IJlNp~IJwiJ[y$J[zeK[yoK[yoKRw2L[xJL[ygL[yoL[y0L[xOL[ynL[sYuXL[sYv3LzaLzpN[xJN[ygN[yoN[y0N[xON[x
ON k6%BY szv3bNu<bNyWx>O[kEyWxNO[ylO[|xJO[|jIn)p~OElNp~Ow!R[xJR[ygR[yoR[y0R[xOR[ynS[xJS[ygS[y$S[ze
S[yoS[y0S[xOS[ynT[yoT[y0T[xOT[ynTzaTzpU[x3U[yzU[x>U[yPU[xNU[ylU[s)uXU[s)v3U[|xJU[|ygU[kUu<U[kUwiW[y$
W[zeY[y$Y[zeY[y]Z[xJZ[ygZzwZzLZ[xOZ[xOh?Su<BzpB[x=B[dua|u<B[dua|wiTm7u<Tm7wiiqw?C[xqC[x=n6DwiD[x=
D[dua|;yeD[dueOnfbqTA;yYqJbEg|m8F[fc;ydF[x=G[x=GAMMvYHVwifpwiIzpK[xqK[xqL[a|u<chBDAzpnfMwiN[>xqN[h?^
LEGyWmZyzO[fdu<O[fdwiOv&Ow*P[xqPsm~YRwii3TWv+i3TWw?e%~qJbS fHu<TxEv3T[xqT[x=T[r]x=U[fdu<U[fd;yYo8Vsm
Y[fc;ydY[x=ZzaZzpEZHwiEZH oXu<EZH oXu<p2iR~dEzpi3hDuXi3hD~p>tDud~WYNN,~DbO!CLIbi~LeK!CLIbi~ALVEOLa&C
LIbi~r]CcmKwiDZ[ynD[uXZ[xODZ[ynLJwiL[uXJu<LJwiNJwiN[uXJu<NJwiA[xOA[ynI[xOI[g]yWxOO[ynU[xOU[ynyAx>yAy
PyAxJyAygyAxOyAynyAxRyAxRnfw!A[vfx>A[vfyPAx8x>Ax8yPAE[x>AE[yPGzaGzpG[xOG[ynK[xOK[g]yWkUu<O[kUyWkU=x>
O[kU=yPp2xOp2xOJ[ynDZwiD[uXZu<DZwiG[xJG[ygHWAIRwiWYNNwiN[xRN[ysA[R<jEewxJA[R<jEewygAE[xJAE[ygOwUxJOw
UygA[|xRA[|ysA[p>xNA[p>ylE[|xRE[|ysE[p>xNE[p>ylI[|xRI[|ysI[p>xNI[p>ylO[|xRO[|ysO[p>xNO[p>ylR[|xR
R[|ysR[p>xNR[p>ylU[|xRU[|ysU[p>xNU[p>ylS[j3xMS[j3yhT[j3xMT[j3yhYOGHu<YOGHwiH[xOH[ynN[h?^LEGu<D[hdv3O
Uu<OUwiZ[xqZ[x=AzwAzLE[yoE[y0O[vfx>O[vfyPw>x>w>yPOzwOzLOx8x>Ox8yPY[kE;yeY[kE,L[hdN[hdT[hdn^J,DB n[Q
P j&H;yXAzpCzaCzpL[a|wiT[zBS[SWeHxyZ[SWeHf+witDu<tDwiBzpU a|winfVwiEzaEzpJzaJzpk^Q[hWxyQ[hWf+wiRza
RzpYsoE;yeYudnfA,jKnfjKBsmiqO,C[hdD[iRDsmqJbEg|SCHWAsmm8qJm8qJiqEsmmcqJm8n^JudGsmm?G;zzG;yeGAMcvRAM
S fd,nfH,HsmHbNsmIudfp;zzI;yeL[uOL[g*L[v]LEZH,nfM,nfM[qcMsmN[>hXN[r]fc;jx :yvNu<l(O,yvOE;yemckWPb7nf
R,vBqcvBhXR[qcR[iRs!hXqJs!fc;zAR,p>R;yeSsme%n^JwUhXSQUa>qJe%bS[hdnfT,T[v]U eOo8VsmnfV,nfW,nfY;zzY;ye
Z[v]Z[hdEZH,p2bmL;jxo?tD,Pb4YNGE!nrFc?ATIdXp>tD,SdxTCH%C,BILABI!CcmKlNn)B;ydmcm8yvGsmyvHu<J[umuXnfK
,yvLu<Qsm~tDud~qJtDsoE;yeDZ n[DEZH n[DZ uphddAn[TbS n[TC uphdFbN n[LS n[LZ j&H;jx ~BI:LABI!c8CUSSIdX
DbO!c8CUSSIVE;:xVnfH[FISHfc:,=f+;:qivvH,HsmJ,R,nfR,vBfcpbp>R,W,Y;xek7|k7nfj4szqJj4s&iFrYiFtD,qJtD
,>rh^rhdOrhhmrhrn jG;::g];xevFkE,ukuAfIvFfIkE,fIuAfIuks]j2hQs]j2g^%s&iFg^%rYiFno,pU,f5?iegG;::j
Zrvs)kUlNlf|jHjG;xeRHOTb%hXj7jGlNGAMMAlNLlNSlNXlNqJtD,sGqThVqTfNqTfIqTrEqTYb+DEc6T<seYeyDEc6T<seVOI
CfoUNASPIRATbH|szfIhmrhfIdOrhfI>rhfI^rhfIiFmZuAmZ|uAmZ|ukfIlfm<j2jThVi4e6hVi4jTfIi4e6fIdtEd~LF,fZd)L
F,fI>g9;sq:uAukxklfkE,qyjZrvrshWjFs)|ukbd+vEjF|vEjF|uAtyp>jZnfj3jFj3jFqJj3jFj3jEk*b1dWjG jUjHjG jU>T
ACK jU^TACK jU>jNjFfd,rYR<jUno jUpU jUr=jUiei^jUPALATa5Z%hWjUr]hWjUrwpP jUR<jUj3jUn+kU,vEjUl>jUp>|AR
CH jUg] jUrn jG jUjYjUp>jYjUlejUkE jUqe|qeleoQSb9TnEoQLcUnEoQk]SOLIDdRoQh?SOLIDdRoQs&R<jUp>l>g)n
Og)ahAGgnjUX jFq4lf|qyb1dWsejHsehN t$hN KORONIS,hN DIALYTIKA lhhN vMl>jFsF jU|vEjU>jNjUfRlejFHOMOdn
Tb%jFvZ jF>^jPjUo9jPjUGc+HEME fs)^rgjFrYs)FERh~X jU>rgjU^rgjU^pF=dOrgjUs&s)eZjEk*l$K jU|R<jUnvjF|jYj
U|jZ|kE,|kE jU|lf|p>jZ|wJ g);sqxVaHn|C,D,H,M,R,T,V,X;lT:v3HETvYHETw2n9SAMPv&n9SAMc9inAL?kCinAL?v3PAM
PHYLffhgMvYPAMPHYLffhgMA;37AlT:vMk^qJtWlHlNmntWlHlNqJmntWnHuTwiYOT;384lT:lhDIALYTIKA lhv3g7[lhANO f>
IA;yC:utlhp1lhfp[dtOS;38C:yCuRdtOS;38EyC:uZlhs5dtOS;:x%fp[vgdtOS;yC:jKBETaOAMcvbqdehq+ZEdeEiQEdeh
8b~c5chbnMdGU,XI,OicN,c9RHO;3A3yC:SIGMaUa]o8Pb7Cb7PSI,kWfp[DIALYTIb|uZDIALYTIKA;x%:g7[lhutlhp
1lhfp[lhuZvglhjKBETaOAMcvbqdehq+ZEdeEiQEdeh8b~c5chbnMdGU,XI,OicN,c9Rb8j^SIGMAajGMaUa]o8Pb7Cb7PSI,k
Wfp[DIALYTIb|uZDIALYTIb|uRlhuZlhs5dtOS;lT:n)KAInHBETAnHdnTAlH;lTuZ:fcnHjHewfcnHvffclH;lT:PHInHPInHKA
InH~n9KOPPvYn9KOPc5~daGMvYdaGcv~hgMvYhgcv~KOPPvYKOPc5~SAMPIvQAMPI;piv3SHEIvQHEw*FEv&FEw*KHEv&KHEw*b
9v&b9w*Ga$IvYGa$IAwVHIMAvQHIMw2DEv&DEI;lT:b~PAnHRHOnHtWnH~YOTpbdnTAnHLUNeJhqONnHqJLUNeJhqONlHwVHOvQH
OpbtWlHwVANvQ$RHOsoElH;lTn):qJtWnHmntWnHqJmntWlH;pjwTIE[j~IO,DJbAb_sgb&DZbxy=d7b_LJbCb_TSb5Kb_I[j~k]
U,DZb5aKx+e3k]h0pVip)bRdhx|SHC*rPi>SOFT?E,d$YA;pjvNaKx+e3k]h0pVip)bRdhx|SHC*rPi>SOFT?E,d$d4IE[j~IO,D
JbAb_sgb&DZbxy=d7b_LJbCb_TSb5Kb_I[j~k]U,DZHE;pj :v3kWuXkWv3YATu<YATwip?v6p?w!r3u<r3wip?r3u<p?r
3wil*u<l*wip?l*u<p?l*wiKSv&KSw*PSv&PSw*FITvYFITw2kpvYkpw2kpA[|uAuXkpA[|uAv3UKu<UKwik=kWuXk=kWv3s5TIT
Lv+s5TITLw?OTu<OTwiKOPPvYKOPc5o3SgG;sqj!fgTITLcNALATa5ZjSeXA PNEUh~PSILI PNEUh~POKRYTb&ono3S?m1Sg
G;pj :v3k]I[xyk]I[f+wVEMISOFTgGvQEMISOFT?v3ER[gcu<ER[gcwib0[UPgju<b0[UPgjwib0zab0zpb0[mZxqb0[mZx=ZH
EzvZHEzKZEzvZEzKKAzvKAzKKA[vGv6KA[vGw!KAzaKAzpBa=KIR KvYBa=KIR Kw2ENzvENvPpbp~bLb0lNp~bLGHw!PE[mZxqP
E[mZx=rbHvYrbHw2ESzvESzKTEzvTEzKSdwh3UlNkyq&Upbkyq&UzaSdwh3UzpHAzvHAvPpbp~dgTSElNp~dgTSw!bhzvbhz
Kbh[vGv6bh[vGEwVHHAvQHHw2rbCHv6rbCHw!rbbhzvrbbhvP,~PALOCHKw2ZHE[xNZHE[ylKA[xqKA[x=EL[xyE
L[f+wiocxqocx=ocxyocf+wiccKASSffCHv6ccKASSffCHw!EM[xyEM[xyPALOCHKw2A[xNA[ylA[y1A[pPpbp~A IElNp~A Iw!
IE[xNIE[ylSg|uXSg|v3SCHWA[y1SCHWA[y]ZHE[y1ZHE[y]ZE[y1ZE[y]rbDZv6rbDZw!I[x>I[yPI[y1I[pPyWy1
O[y]l(v+l(w?l(O[y1l(O[y]E[y1E[y]U[x>U[yPU[y1U[y]U[|xJU[|ygbh[y1bh[y]b0zvb0zKYERU[y1YERU[y]b0wUxqb0w
Ux=HA[xqHA[x=HAzaHAsoyJDx*DyJDJx*DJyJZJx*ZJyJDZJx*DZJyJLJx*LJyJNJx*NJyJSJx*SJyJTJx*TJw!qJZv6qJZw!E
L[xqEL[x=LHvYLHw2RHvYRHw2YAv6YAw!QvYQw2Wv6Ww!ALEUT KvYALEUT Kw2EL[mZxqEL[mZx=ocmZxqocmZx=PEzvPEzKSHH
AzvSHHAzKoc>xqoc>x=DZZHv6DZZHw!DCHv6DCHw!ELzvELvP;531:ARcBIANwTAYB,B(GIM,bnEbfZA,bIbUTcPb5INI,LIWN,
XbICaP(b8JaOHaZCe~M(Yb$OW,S*VO,C*PbIJe~RaTbIVEW,TIWN,RbICO,YIWN,PIWR,KbIOH,FEH;559:ARcBIevwCrYiFszEM
PHASb?h|w$j4uT,l4rj;:ARcBIANvNnfAYB,AYB,B(GIM,bnEbfZA,bIbUTcPb5INI,LIWN,XbICaP(b8JaOHaZCe~M(Yb$OW,S*
VO,C*PbIJe~RaTbIVEW,TIWN,RbICO,YIWN,PIWR,KbIOH,FEH;:ARcBfflYp~ECH YIWNu<YIudrMki;58D::uUARcBffEf]IT
Y?tSARcBffEf]ITY?ARcBffDRAMgG;591nVjG :ETNAHTAahGOLd|LSHELbUZAQEF QAT$ZAQEF GADOL,TIPE*REVIaWARQa
Sa=deYETIV,TEVIR,GERe%GERbS MUQDa7GERSHAYIM,QARNEY c6aUEcoHA GEDOLaSAZ)ATNAH HAFUKH,MUNa2MAHAPAKH,ME
RK*MERcc KEFULaMARbZQADMaUEcoHA QETAcGYERAH BbLYOMO,OckILUY,DEb7ZINOR;nVkFczORAly;nViwaaHEdVHATAFabG
OL,HATAF PATa2HATAF QAMAdBHIRIQ,TSEREahGOL,PATa2QAMAdBHOfyHOfxHASbQe*VAV,QUBUdBheH cXMAPIQ,METEG;nV
:t%MAf7iw RAFE,t%PASEQ,iwacb+e0iw Sb+e0t%ScRPASUQ,h_lle0h_kCe0t%cK HAFUK*iw QAMAdAQAdf;5D0nV~:et,BbU
GIMbJDALbUb5VAV,ZAYb<HbUTbUYOD,j^fufuchbHj^MbKMbKj^fTcKq=b<j^PbDE,j^TSAbsTSAbsQOF,RbSnMV;5EF:nVYOD o
6;nVp~YIDDfq:|VAV,VAV YOD,|YOD;nVt%GER:bSd|YIM;600lS: kR?i^SANa2 FOOTfS fM)i^SAF*i^SAMVa? m4h_jF-h
6 CUBE ROcY-h6 e<dkROcY RAY;lS-h6 PbQ:cCLE?t+gG;::AFGHANIgG;pfj4DATEslPOETb%dYSEgG;lSlCMISRaTa6euHO
U esHE WASSALfyesHE ASSALfyRAHMATULLAH esb5RADI euHOU ANb!TAKHa6US;u=:hVTa2hVp~rcp_gBhVZere)aMA
Mcvh!;pfSEMIj2~h|rCT h|neeZt%h|uT;vS:Ka=MIRI gBb3ZA,rch[ jFrctHWAW[tHrckbjUq!tHet,BbITEH cyBUTaUbI
Te~JEbKHa2KHa2Da4THa4RbIZerSEENd~(SaZDaZTa2Za2erGHerKEp&wcKEp&s=g);vSj?q!:p>V,wcs=ABOVE;pfTATWEEL;vS
:FbIf7fufyMEEctO+e~gxts,YEH;pfe)AT$DAMMAT$h!T$e)aMAMcvh!d|boamKdMh[H jFtHkbg)eem?et,p>DAMcvh_ilGHUN
NaWWa)KAY,tck^V jFtcp>k^V jFtcrwqJDAMcve)A[gkhki<kbg);lS-h6 mmi?y+x2E;pfc8CbO?DECIcwslo3Sq%jgiwEDg
I;vS:n^BbIn^QAFueet,g5WAScgrci<tHrci<kbjUhVb3ZA,hVkbet,hVkbgxU[tHhVkbgBTTbITTEe~BEbIqNiFqNs=jEryPbIT
Ee~BEe~p9tHp9qZq4jFNgBDgBp9w^TCe~Tbhe~DDa4pOiFpOrwDALx9k^Ta2DAHa4boHa4DUL,pOs=jErypOwtRREH;vSREH[lYV
,iFrwk^V jUeZrlrvqZABOVE;vS:JbIREH[wtSEENx9rvSEocs=g)sps=rlw^SAD[qZg)q<w^qMw^pyw^n^FbIp4eZMOV%jUp4rw
VbIp4w_PEe~qErvqEw^KEe~SWeHfup]iFp]rvNG,p]w_GAF,GAF[f&afObIGAF[wdGUbIGAF[w^p_k^V,chwhp_w^p_w_r9rwilG
HUNcGRNO+r9iFr9w^e|DOACHa=M&TCp&rvp&gAjFe|GOa4e|GOAL[tHt*GOa4WAW[iFowcQcQU,d$owd$WAW[wcdXj?gBq!iRYEu
EV,WAWwhE,q!w_q9E,q9E[kbABOVE;pfrM~AE;u=hV:p~SAD[p_ts,p~qEp_ts,xufxet,JEbKk~e1ahEN;pfmtAYAHq>RUB E
L HIZB;u=:hVo0i?hVUP^f!a$i&i?hVn^e^ cRKHa2hVxXcqab(hVh[,gxgBhVgBhVNOON;pfk5cRSAJDa2j>l_cqadc
Wj>l_faadcWo0hVSdu[FILL%l|k^fIMEbK~pOp>V,~REH[p>V;:yMmmi?y+x2E;pfkyd)ocrw~pNrw~sJrwiKSb=HI jLa!jjSb=
HI POSToS M(~p&p>V;lZ :mtqzamPRAmPp8eemPp8amPRAmPhaeemPj2sNj2ha SKEW%h)ha SKEW%iEamPRAmPha SKEW%f
BeemPha SKEW%iEd^dwCgd;lZ b4KLEevObadSMETObadSl$CUS;70F:lZ l4rj;lZo?ALAPHueALAPH,Be&GAMa4GAM!GARSHUN
I,DALAdln^DALAdkRfrb5gxZerHe&Te&TEdkGARSHUNI,YUDH,YUDH b5b~H,chADH,MIM,cKahMKAdlhzabMKAdlbDE,qJPn~QA
PH,c]HnMW,c8SffBHe&c8SffGb3a4c8SffDb2a[;lZ :PdmHn4PdmHA jUPdmHA j(,ZQAPHn4ZQAPHA jUZQAPHA j(,Ra~n4
Ra~A jUmnZLAcusOmnZLAcua$ULa(Ha~n4Ha~A jUHa~A-ESASA j(,ESASn4ESASA jURWA*FEMIike0QUSHSHAd4RUKKAK*gkq
4e1 jFgkq4e1 jUw^w_oJh<jFoJh<jUcFIC,a|REKH;74DlZ ~SOGDIevZHerccPH,FE;vSpK:s=rRcsjUeZrlw^zYs=qCo
9rlwcqZrlrvp>k^V g)lNV;vS:p9wcp9zYpOx_rlk^Ta2pOp>k^V jUREHsoEspwtpywcpys=qCrxjFpyx_jFp4wdp4zYKEp&rvK
Ep&w^KEp&zYr5rvr5rwr9wdr9k^Ta2r9k^V,p_eOREH[x_jFREH[tHSEocx_jFHAuEl!~TAH jUHAuEl!~TAH=gke1spk^l!~TA
H=gkhkREuEl!~TAH=gkhkHAuEl!~TAH ABOVE;vSrcyMmmgkjFk~ABOVE;vSj?q!yMmmgkjFk~jFhIg);vSWAW[yMmmgkjFk~ABO
VE;vSq9E[yMmmgkjFk~ABOVE;vS:p9yMj%hIg)spyMj%hIjFSEocp>V,p]qZABOVE;:dmANAo?HAAd|nqNOONU,RAaKaXLHAnqKA
AFU,a5FU,VAAVU,MEEMU,FAAFU,DHAAcrTe>LAAMU,GAAFU,GNAnqSEENU,DAnqZAnqTAnqYAaSAnqJAnqbgnqTTaXHe>Ke>dm
AcrZAAd~ENUagADb!DAADb!TcPO,AINU,GHAINU,QAAFU,WAAVU;:dmANA :ABAhxAABAAhxIBIhxEEBEEhxUBUhxOOBOOhxEB
EhxEYBEYhxOBOhxOABOAhxSUKdM~NAA;7C0:NKO mmi?y+x2E;:NKO ~aHEe3E,U,cVO,DAGa~INfO,Bg3deJjBbnc)RRg4GBaNA
,b|LaQA WOLOSO,MjDcG*dZYaQYA WOLOSO,JONA b^JONA C*JONA RA;:NKO ro:k]hVi4k]fIi4k]m>i4h?mk<i4h?hVi4h?f
Ii4h?m>i4m2Asd|eZABOVE;:NKO :hVi3szfIi3szSluOO DENN(SluGBAKURUN(j4w$LAJANYAci;7FD:NKO :DANTAYAL$DORO
ME?TAcxgG;nZswALAF,Bb]GAM$DALa?IY,BAaW(b]Tb]YdTKAAF,LABa?MIM,fTSb>Aa?b<FI,TSAADIY,QUF,RfrSH$TAAF;n
Zevh_b<h_IN-ALAF,h_OCCLUSI+h_miwCEc7dnTb%YdTh_Ec7dnTb%YUT;nZANuch?E,E,f3h?aXh?AgZf3h?A,h?aJ;nZevwCk]
A,tck]A,tch?U,tcU,wCuGh?uGuGO,tcSUKdMh_NEQUDAA;830nZa8t%:NEQUDAaJFSAAQ,a$bHBa]ATMAAUeaYYAALAA;nZevl
4rj;nZa8t%:MELODb%QIghZIQaXQIghZAEF,TUc_ARKAANU,ScRMa=FAa?ANNAAU;840:h^sPb2c%aYa1aZa2USHENNaJZ,b]ATT
,AKSaJK,a4a7$AS,b<a%ASZ,AQ,a(eIa?DUSHENNaPaZAIN;:h^fgAFFc?AsdVOCa5ZAsdGEcDrj;85E::h^b%s8;860lZ ~Mes
Afx:fQJjDgiNfONNaK*c)fFLfFSSA;870vSrc:pIFAT*pIgf^FAT*^kInF>kInFpIh!,pIl<^h!,pIk=rvpI^k=e0pI>k=e0p
Ik=rwrvpIgf^e)A=rv^kIi~E=rvpIl<^h!=rvpIgf^e)A=>iF^kIi~E=>iFpIl<^h!=>iFpI^b3ZA,pI>b3ZA;:l!TATWEEL[:f3
STRUCK b3ZA,f3STRUCK gxqZg);pf~THb+gBa~Eh<k=e0m<k=bv;vS:r9p>k^V,p9p>k^V jUqMrwqMw_KEp&x_g);pfq4f+;89
0pfPf0 h_jFPIASdx h_ABOVE;897pfPEPETlNfajdAL-JUZ;u=cqjd:ISHMAa7IMAALaUa=EEL;pfh[ WAAJIBueg5MOccSSAS
,j)D h[,hQh[i[h[;vS:BEuEV jUpKtHrVwcqMwcFEHx9w^qErwp_|eOr5w^q!qZrltHq!qZrlrvREH[fH,WAW[bvgKb<ROfbY
A gBfIet,pOs=g)q<w_GAF[p>SdzKEgTh3gxZpyp>V jFpyw_p]rwQAFx9NO e1 jFBEuEiajFPEuEiajFTEuETEH jFREuEilj
Fq!qZrlk^iljFn6FbIn6f7n6NO+PEuEV,TEuEV,TTEuEV,TbhuEV,KEHEuEV,sJw^n6qEw^rVw^rVw_p_k^l!~TAH jFb1F;u=
:j?gBhVj?gBhVq9E[wdfajdSa2hVZAH;pfkwk=rvkwk=rwSUKUN jUkwmajUkwk=eZINSfhmag);u=:fIgxfajdAR-RUB,hVSaZh
VerhVf7hVr9h!,fIr9h!;u=fajd:a[-Tb2AT*AS-SAJDaJN-NISFagKdeQIF,WAQFA;pfk^hVFOOTfS fM)k^fai^SAF*btPU
T%mtAYa2nfj$g);:l!j8:e)aMAMcvh!,e)AT$DAMMAT$h!df;:l!i3:fWrvwcfH jFfWrwwdfH g);pfiqe)AT$iqDAMMAT$iqh!
T$k^hVgxe)A[iFe)Awhh![rw>rgjF^rgjF>rgjU^rgjU|^rgjF|^rgjEi=e0^rgjEi=e0j$i=e0h_SIDEWAYS ilGHUNNA;"

end Callwise.CharName

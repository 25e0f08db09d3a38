/-!
# Names of punctuation marks and symbols

The code points 2000 to 2BFF: punctuation, currency, arrows, mathematical and technical signs,
shapes, dingbats and Braille patterns.
-/

namespace Callwise.CharName

/-- The table of these names, in the order of the code points. -/
def symbols : String := "
200arbLf8,EM f8,ENlGEMlGlbc8-EMlGe<-c8-EMlGSIX-c8-EMlGFIGURElGs8lGTHINlGHAIR SPACE;:ZERO WIDTHaaPACb
CON-fs)fsER;::vth|vyh|ki,NON-bcAK<ki,FIGURE DeIbLDeIobsNeO|vF|qefBgHcjv[iEgHcjiCqSnNcq-9 iCqSnNfa-o
X-9 v[>|v[^|v[|cq-9 v[|fa-oX-9 v[DAGG)|DAGG)l]s]l]fWeZLEAD)gkeZLEAD)sNpXkijRiw,cnEslqzslvtEMBEDDfovy
EMBEDDfoPOP hhgd!e+ATTfovtf3RIbpvyf3RIDbCjPNO-bcAKlGPbQcCLE?PbQt+?k7|k7nePRIME;:qJ:k7|k7nePRIME;::bd
ETnNvsjNiCqSnNv_jNv[REFERENCE h||w$h7ROBezqyi(TIbyp!TIEd[bTINSERi1iw,l$M,ki l]p6SLeIfBvO[QUILL,iEvO[
QUILL,|uT,QUESi1w$mvi1uT,TIRONffiKbUqJPILCROW?]rZl]]s(l]fIpHoXabMIj2eTE dPgkl$KS ALb)%o$LY,bjMERC
I!ie?SWdN DeIp>i(TIbzkCt%h|k~eZs8,r?k7hIeZs8jgeZs8,gkeZs8,hIeZh|j(lzdyj2q4hIhkmXtYlGWORD fs)FUNCi1A
PqB;:INVISIBLbwi0ahm$,f5;2066::vtISOLAdhvyISOLAdhj|STRcU ISOLATbDOP hhgd!ISOLAdhINHIBb[SYMMEgg SWAP
PfoACTIVeJSYMMEgg SWAPPfoINHIBb[l!e+d(PfoACTIVeJl!e+d(PfoNg$!j%SHAPbRNOcD!j%SHAPESuei?Ss|xVI;2074:
Ss|:e<,hDx2E,f5?ie,sF,zZxVN;:SUBm?:i?z%f5?ie,sF,>t!^m%ESIS;2090jxd<StA~aHe5X,Sg|H,K,L,ct,P,S,T;20Aar
EURO-mhY?ha?CRUZEIRO?FRENCH FRa9?LIRA?cCL?NAIRA?PESETA?iH?WON?NEWd)QEL?DcU?EURO?KIP?TUGRIK?mp?GERMa
8c7NY?PESO?GUAc*I?AUSdwL?HRYVNIA?CEDI?LIVRE Tc1NOIS?SPEScCO?TbNE?b=ffiH?dDKfqLIRAgGd_Db%fM?cxAT?RUBL
E?La<?BITCOIN?SOMgG;20D0sq:>ojjF^ojjFh?vEoQk]vEoQu_tuCqatu>tu^tuR<oQCqaR<oQu_R<oQw^wtrAmbrASk!rAn?r
Amark>^turASbl(rAKEYCa%rAlm qCqWwHoQ|o$nEoQANNUITYnHnei(e0Wfhl>jFrZjPoQh?|SOLIDdRoQzDryztry>jPjU^jPj
Ul$K ABOVE;210arACCc0T OF,ADDc=S%drdnd<JECT,yHC,hfE CELSIUSnIcnElHd[E OF,CADA UcGEULbQbkSTeBSCRU
PckhfE FAHRENHEIdctAG,SvcH,yiH,yHH,PLa9K bkSTeBPLa9K bkSdfTi[gkc9SvcI,yiI,SvcL,StAL,L B a|nHyHN,inO?
Sf0 RECORD<COPYk*SvcP;:yH:P,Q;aGvcR,yiR,yHR,Pc=eUi1TAcbc=PONSEahRVICE h|r~Sb),dwDE fM?dYSICckyHZ,c0C
E?OHM?p>OHM?yiZ,nfhN uXh8KELVIN?a$SdzM?SvcB,yiC,EdaMATEDnHStAE;:Svc:bz;::nfn)F,SvcM,StAO,etnHBETnHGI
MELnHDALETnHINe+jRSc1beoYn)Q,bWSIcCEgG;:uq lYPIlNGAMMApbGAMMApbPb$gVSUMMg$;:gjEDsko>:G,L;::oXsko>L
,gjEDsko>Y;:uq ITALfgn)DlNDlNElNIlNJ;::c$c8dFh=nfjLexc8?AKTIESELSKaYnfk^F,Slue*SAMa<Ta8Sc1CE;:VUL
Ga&p6:fWSEVENnacInadinaf|D,q0S,fWFIFdlgkFIFTHS,k~FIFTHS,hIFIFTHS,m7THjgSIXTHS,fWj<,k~j<Sjgj<SlJj<S;:
:p6inATcXONE;:ROMa8in!:z%xzj]t5uwfWo3;lYROMa8in!:z%xzj]t5uwfWo3;:ROMa8in!:fWo3 C DjgqQt+,qJfWmC;ydqJ
C;:ROMa8in!:SIX LeJe+,j[bGcse+,j[qQt4o3;::VULGa&p6ZERO f|DS;:nfmmglgbE;2190tovaw7wnw4jQnn w6w5w8w
9wog9udwJudrZi+w7i+wogke^%vagke^%w7gke^%wngke^%jQyuiRyTiRrZv1o9v1s(v1rxv1nn sAa~E,yuhXwJsmyufH,yTfH
,>^i+w4g9udrxnvg9;:x6TIP :r0qKS;:ypTIP :r0qKS;::yTmfryypmfr0u_duo^cjjQCqaduo^cjw6pEh?eOrZpEa|i[w
J ndu_t7jQCqat7jQztlmS,ztryziqKS,zioxS;:zD:lmS,n_S;:zq:qKS,oxS;::wJi[rZvaxKrxyFirs(wovxo9vxs(vxrxvxr
Zojirs(oks(ojirrZokrZ|g9ud>^|g9uds(|g9udrZ|va|w7|wn|w4|jQnn |w6|w5|w8|w9|wonew7nejQoxs*jQqKs*jQx6j)n
Fypj)nFrZmjvamjw7mjwnmjyFndwJ ndrZ_va_w7_wn_g9;:o9_:v1jPcTPEDESTa4jPcTPEDESTAL[sNeOjPcTPEDESTAL[u3|j
Q|jPcTPEDESTAL;::s(_jPhKWa6,s2pEj6tlpEmgnn _jQ^w3mbrxxKo9jQk~wJS,rZzls(zl>^zlyu|wQyT|wQ>^sA|wQrZf
Z-e^%w7fZ-e^%w4fZ-e^%jQe*a6,j5ibc6TI!DIFFERmuf_E EXISdBf_E pSEXIST,j>SbUINblibNABcgrz,fRa8rzlNrz,me
S AS MEMB)pSme AS MEMB)k^meS AS MEMB)mtc$OF,NgVoTNgVCOoTNgVSUMMjSie?ie-OR-f5?eZf5,n]lDSbTie,l$K qs
R<qsBULLbToMnOROcYCUBE ROcYe<dkROcYc$PORgd!dsp<^jOjOqgjOSPb6h1jOhjbRpShjE,m!L dsfRm!L dsoAexoAOR,tO,
UNI+or,|or,neord^Tc1 oramRhvor,VOLUME or,Cqaor,CqabkTc1 or,u_bkTc1 or,f_EbYbxECAUSE,RATIO,c$PORi2e
Zie,EXCESS,GEOMEgg c$PORi2HOMOdndp,vz,qJlfp>LAZY SajNEjbWREAdkoTfRlfie lfASYMPTOdpg6pZfRASYMPTOdpg
6od;:u|:pZBUT fRACTUg6od;::oFu|NcXACTUg6pZvZ,fRvZ,ALMOST hr t8nelfa6 pZvkGEOMEggg6vkDIFFERENCE n%A
Pc$AbhS f^LIMb]GEOMEggg6pZu|od cXf^klOF,klcRcXu|pZha hrS,hrS j2R<b+pZR<pZCORc=PONDS dsEdaMATbRe$a$i&
TOgS hrS,bqddpZod BY DEFINIi2qgBY,QUESgd%pZt2,IDbOh1dsfRIDbOh1TcOggTcsvkr1t8uBt8p|i[odu+irpZr1BUT t
2u+BUT t2,MUCH r2MUCH tE,n%fRvkfRr2fRtE,oFr1Nt8oFuBNt8r1cXvkuBcXvkoFr1NcXvkoFuBNcXvkr1cXtEu+cXr2oFr1
NcXtE,oFuBNcXr2k6ESamCCEEDS,qDcXodq?t8qDcXe$VALe8TOq?cXvkpSk6E,pSSUCCEEDeek[jmk[,fRAd<k[,fRaIUc
8k[eexxjmxx,oFAd<k[ Nt8oFaIUc8k[ Nt8SUBk[[t2jmk[[t2,igSET;:igSbT:igqB,UNION;n2:klOF,quOF,klcRt8qucRt
8Ca%CUP;ph:f5,ie,i0,n]lDeZqsR<qsl$K qshrS,Da=;ps:f5,ie,i0,eZoM;::^TAbi>TAbipU,no,ASSERi2MObqS,TRdJbY
CbRneu2^sf|u2|^sfpSc$dXfRTRdJpSbYCbCEGAT%|u2|^sfqDi( oVq?i( oV,wDOF,meS AS NORcwd<GROdPwDcRt8meS A
S wDt8quOF,klOF,igMa%b6MITffbkJUGeJMAdyX,h7CALAdhXOR,Na!d_,^syeF^o6;:NgV:oAexoAOR,tO,UNION;::ml qse
ZoMgS qsn] i0,bbTb&>NORM!bWdvx7^NORM!bWdvx7fBx7iEx7qJlehrS;:j8oA:OR,a!;:|:SUBSETjmSbUtO,UNION;::PITC
HbYK,hr=m!L dsp|q*tEq*i)MUCH r2i)MUCH tE,r1od cXtEu+od cXp|;:uur2tE,k6ESamCCEEDS;:pS:k6E cXhramCCE%c
Xhr;:cJnC:klcRt8qucRcXod;:n2klcRcXt2nOqucRcXt2,r1BUT fRvkuBBUT fRvkqDBUT fRe$VALe8TOq?BUT fRvkfRwDOF
,pSme AS NORcwd<GROdPfRwDcRt8pSme AS wDcXhr,q4pXMIDh<sNpXdO^pQpXhm^pQpXrz[h?xrrz[y8xrk^rz[y
8xrrzwhrz[oPk^rz[oPrz[q3rz[gkrRi~bRmeS[h?xrmeS[y8xrk^meS[y8xrmeS[oPk^meS[oPtfBAG MEMBERSHIP,DIAM
Edj?pWjQHOUSE,dOrhhmrhc$JECTIdXc8SPECTIdXi<h=>CEILfo^CEILfo>hG,^hG,l<^CRcWl<>CRcWgf^CRcWgf>CRcWqJcJg
GnOoBeFSEGibSECdv,r~RECORD)oS p+,VIEWDATAnDk5cRh7EST?nfcJ?WATbfHc1hM,gf>mggf^mgl<>mgl<^mgqUor,twor,h
L,SMIckdOrgn$gksNa|S,OPi1fvERASE drf^k*X b+A f!jNeRKEYjWvsjNn&v_jNn&ERASE drf^h)BENZENE iFCYLb=c?ITY
,a6 ARf0-c$FILbEYMMETRY,TOT!RUNOdTDIcBiLORIGINd^h1TAP)SLOPbyc0djBORbyc0djSINK;:APL FUNCgdALnG:I-BEa7
SQUfqf8,iAhr,iAhjE,iAn?iAJcYf8lynJSiZmaJOdcLeHeOeMSLeHeOf8lDiArkiAr2iAtE,rZVANE,s(VANE,iArZjQiAwJn
JrkpU q3bqTaIiZiAhmbdbUiAbqdepU JcYo9VANE,iAo9jQno oPbq SiZiAdObdbUiADbJno JcYrxVANE,iArxjQQUOdgq
3bqddq3ml q3JOT q3maq3UPd+E JcYQUOdgf8nJSf<iAj2no rsbq pPgS rsJOT pPnJrse2d+E SiZfBd+E SiZlepPu+rsj
3eObq lfZILbpdacjdqDEgPha q3iAfRhr,iAQUESi2hmbdbTlfdObdbTlfh8Rb8kWg7 q3hqcTq3fp q3OMEGA q3g7;::fRs
C^syrxnvg9ebULbr%iqeRbaLnHvEi=sYINSERgdlHd^TINUf1i(cnEnHbtbkTINUf1i(cnEnHEMPHASISnHbjoSnH_Ss9l_vFE
NdjnHn8IdWKEYnHHELMnHn<sNa|[cJbfn<qVhnl?j1[NORTHWEST jQUNDOnHcEOSTABLEnHHYSTEc=ISlH;:fZ-eSUIT-c2PU
T :H-TYPEnHL-TYPElH;:PASSIVE-PULL-:e2-c2PUTnHUP-c2PUTlH;::hhTd&RbOnGhHglSOFTWARE-FUNCgdnHAPL FUNCgdA
LnGf8,DECIcwq% KEYnHPREVIf1PeqNEXT PeqPc[T SblENnHCLEa&SblENlH;:>t9:llhXrDkCfc;:^t9:llhXrDkCfc;:fBv
O :llmgrDkCj6;:iEvO :llmgrDkCj6;:>ve:llhXmZk2kCfc;::veEXdiSION;:^ve:llhXmZk2kCfc;::or rDsNh<rDtacXt
Vj8l=nA,t]cXsWj8l=nAamMMjRduamMMjRjX,duvO;:jXvO:,i[duvO;::RADtKjX,>q4eQh=^q4eQcnE;:sNSCa8cnE-:1,3,7,
9;:De!STRYnGkz:u1gfk*u1l<k*o$[mbpTrR[mbnmrR[mbo$[qWpTrR[qWnmrR[qWq4a!jbpTrRgKjbnmrRgKjbpTsOnmsOu
1gfh)u1l<fB;:n2FOcYREgjnHEJECTnHvEEXdiSION;:MEgg!:jZh?f3d+RTlKirLfYh?irdEd+RdBdEd+RTSi[LfYdEd+RdAkq,
Tc]EcAiWSEMbDbOASEME;::bGdkGRf0,FUSE,gft!l<t!gfj8n&l<j8n&gfy7l<y7_Tc+EZIdLBENZENE f&[j1gTb(TiibXTiiA
Cd&Re9ELECgg!tO,DECIM!EXPONbOlH;:]:v_|qWvs|qWt[|qWvh|qWv_|o6[u3vs|o6[u3v_o6[|t_;::ALARM CfG,SduWATbf
TIMbQCfG,Hc1hM[Fcq<Sa!;:]mX:vsqWv_qWt[qWvho6;::|u3g<nCbYadcW]mae*RECORD;:POWERaaYMBOL,ON-OFFnHONnHSL
EEPlH;::OBSERVbQEYElH;:Slue*:NULLq>e^b>q>TEXT,rCT,v7SI+ENQUIRY,pxGE,baL,eMSPAbesNr|,h<FEbHq4r|,hHFEb
HCeGepREgjeaFT c2eaFT b<DAddcnK ESCAPE;:Slue*DEVICE bkdzL :xw;:Slue*:qmpxGbEYNg_f1IDckv7iLjVCa9bJmtk
HeedaTUdhESCAPbzILEslGROUPslRECORDslUNITslSPAbebqETE;::BciKnHiqBOX;:Slue*:NEWh=bqEdghHdEeedaTUdgh
HglbqETEnCbhsDe+,bqEdgf!a$i&bhsDe+,bqEdgkHd(DE e+;2440:OCR :hXChPbYK,p>bYK,baT BUCKckbb TIbxRa9H a_
K IDe!FICjSAMc0iPbhbiDeICUSTOMbQACCc0T kR,|eMSLa=;2460phmmy+x2E;phoIz[iTi8Y;vVmmy+x2E;vVoIz[iTi8Y;
:mmfWrMgkrMk~rMhIp8jgp8gQp8lJrMj+p8jhp8;:oIf?rMELhurMnhrMf|f= rMe<f= rMFIFf= p8edf= p8jif= rMEb(f= r
McIEf= rMi8Y p8;vVxVem,C,D,bz,G,H,I,J,K,L,ct,cN,Q,c&,r_Y,Z;phytem,C,D,bz,G,H,I,J,K,L,ct,cN,Q,c&,r_Y,
Z;phxVem,C,D,bz,G,H,I,J,K,L,ct,cN,Q,c&,r_Y,Z;phmmZERO;:w=oIELEV(TWELdXf|iTe<iTFIFf=edf=jiiTEb(iTcIEi
Ti8Y;:|n<mmy+x2E;::|n<m4T(w=j%ZERO;u>:kzsOkew)o$,keo$,kzt>sOket>w)t>o$,ket>o$,kzr?DeHsOker?DeHw)r?De
Ho$,ker?DeHo$,kzpTk*hmwAkfhmwwkAkepTk*kzpTh)hmv)kfhmv$kAkepTh)kznmk*dOwAp%wwkAkenmk*kznmh)dOv)p%v$k
Akenmh)kzu1k*q4wAp%wwhmsUwwdOkAq4wwsUwAdOp%wAhmkfkeu1k*kzu1h)q4v)p%v$hmsUv$dOkAq4v$sUv)dOp%v)hmkfkeu
1h)kzpTsO>wwhmkA^v$hmsUh+=sNkfhmhS=sNkA^v)hmkf>wAhmkfkepTw)nmsO>wwdOkA^v$dOkAdOh+=sNp%hS=sNkA^v)d
Okf>wAdOkfkenmw)u1sO>wwq4kA^v$q4kAq4h+=sNp%hS=hmsNsUhS=dOsNkAq4hS=sNkA>dOwwhmkA^dOv$hmkA>hmwwdOk
A^hmv$dOsUh+=dOsNp%h+=hmsNkf^v)q4kf>wAq4kfkeu1w)|DeHsOke|DeHw)|DeHo$,ke|DeHo$,|sO|o$,e2gHmO^mohmj)=i
EnB|pTk*e2gHmO>mohmj)=fBnB|pTh)UPgHmO^modOj)=iEnB|nmk*UPgHmO>modOj)=fBnB|nmh)o$gHmO^moq4j)=iEnB|u
1k*o$gHmO>moq4j)=fBnB|u1h)e2gHmOsNmohmj)=rRnB|pTsOUPgHmOsNmodOj)=rRnB|nmsOo$gHmOsNmoq4j)=rRnB|u1r
R;u>kz:eEpTk*eEpTh)eEnmh)eEnmk*v5v^h)v5vqk*n>lzh)dPk*e2;u>lUh)kedPkek*kehnkzfB=kek*kznmkehnkef
B=kzk*kenmkze2;::s~g=;:kC:wG,xvk~vjhQg=jgvjv~g=lJj<S g=;::Fgng=;:>:Shuvjv~g=jgvjhQjVk~vjxvwG;::s&j
Vh+d(bpuLDARKd(bpllwG,^wG;:qFkC:h)iE;:qFll:h)>re>rek*>rek*>rf^reh)>rf^rek*k*^reh)^re>reiE;::g<nD_Sf9
E;:_Sf9Elxo0j6S,wqi_i|E;:Ss9:sNhyq4hyORTHOGON!hcHATCH hyllvq^hyllv^>hypQhcHATCH FILL;::g<u$_k^
Sk!]f!jO_f!jO]q4f!jO_q4f!jO]m!LOGRa7_m!LOGRa7]t[qW_t[qW]UP-zJUP-zIv_qW_v_qW]k+zJk+zIv_iw)_v_iw)]vhq
W_vhqW]e2-zJe2-zIvsqW_vsqW]h*zJh*zIvsiw)_vsiw)]n?_n?_ml wqlEn?FISHEd6oB_mbj(nxj1[q4hyBULLSEd6]j1;:j
1yV^sLkCsLllsLt]qFg<,a6 BUT taqFg<;::>xn^xnosl]os_mbs~os_mbsVos_mbtaySt]yStVySsWySs~mbsVj1;:]:tVqWs
WqWtaqWt]o6;::_BULLET;:Sf9EyV^sLtapQsLtVpQrO;:_:Ss9q4BISECT<h=t[o6[bv;:t[o6yV^rO;::kwj1;:_Ss9:taqGs
WqGtVqGt]f8c*T;:_j1[:taqGsWqGtVqGt]f8c*T;::taqWt]qWsWqW_kHnD]kHnD_kHu$]kHu$tVqW]SUN[RAYS,CLOdIUMbcfF
SNOWM$bjbUsB_Sf<h+NfoTHi(SdvM,SdMASCbM<NObpmk<NODEd^JUNCi2OPoS,]sa_sal&BOX;:l&pL:bhbiX;aGl6UMbcLLA[R
Ab+DROPS,HOT BEdYeq_SHOGI k2g<d+GI k2Sb3f(,qJoYFLOR!kcl]]>v<]^qCh5;:_:>v<dOv<^v<hmqCh5;aGKULL=hcBONb
RCAUgd?RADIOACTIVE?BIOHAZa*?CADUCEdSANKH,ORTHODOXlzCHI Rb8j7cRLORRAfnj7cRJERUSALEMgS=n=,FARSInHADId(
Kdob3MER=SICKLbDEACEnHYb+Ya$;:dyGqHHEAV(LAcbhATHi(,Wb=,WAT)kKb<bGTH;::WhTcRDb4cv_hLp=_ScCp=]ScCp=_SU
N[RAYS,j|oUMO+LAST oUMO+MERbmY,FEcwE?j*cwE?JUPIT)SAgj,Uc*dSNEPTUNbDLUdsa<bRTAURdSGEcDI,Ca9)LEO,VIRGO
,LIBRaTCORPIUSagGITTa<dSCAPc?ORN,Af9IdSPISCES;ui:h$k%iGl+mKPAWN;:]j0:h$k%iGl+mKPAWN;::]SPADEja_e_
Tja_mlja]CLUBja_SPADEja]e_Tja]mlja_CLUBjaHOT SPf&S,oUimj< imBEAM%j< cJbRBEAM%SIXm_cJbRcFb%bXT?cFb%N
AdDAL?cFICd(RP?WEST SYRIAClzEAST SYRIAClzUNIdYS!qIlH;:qItiTYPE-:1 qA2 qA3 qA4 qA5 qA6 qA7 c!SdpS;::q
ItiGENERb%MeKIALS,]UNIdYS!qInHRECYCL%PAc8nHc6TIa6Y-RECYCL%PAc8nHc8cxe8PAc8?WHEELbgIRnHDIE bWEef6;:_j
1[:eZk*gke1;:]j1[:_eZk*gk_e1;:cEkVe*Y:ezIN;:DIGqHGREAf[YezfDbQYb<fDbQYezGREAf[YIN;::_hE]hEb3MER=P
Ibia9b9,hc%SWORDSalAFF cRAESCULAPIdSSCAfCALEMBIC,Fcq)GbGalAFF cRb6MbRATOMnHFLEUR-DE-co,qx_STAR;:k~cn
ES bkdYG<:k*fB;::WARNb>?hVVOLTAGE?j)D FEcwE?j)D cwE?h7fG%FEMAmOcwE?MAmOFEcwE?cwEsoE?cwEwUMAmOFEcwE?q
4cwEsoE?sNcwEsoE?kHu&mX]mbkHi_u&MeGAGEnHDIVORCEnHUNMeG%c6TNERSHIPnHCOFFb<FUNER!URN,NEUT)CERbRPeuS,JU
NO,VESTaLHIR+]ifLILITHahXdqEgPSEXiZQUINCUNXahSQUIf8RATbEOCCbQg%a~Eg%Sm*KEY;:_DRAUGHdA:M$Kb>;:]DRAUG
HdA:M$Kb>;aGNOWcxgKf2SNOWamN BEHb= CLOdIRer]SNOWM$THi( CLOUD=Rernf_SHOGI k2nfg<d+GI k2_ml INnDhc<cib
RbtABL%Ca(OPHIUCHdSPICKd[ SLIDfoHELMET[_hc,j1Dq$cibRbgINS,NO bORY,rdONE-yB]dE-yB_dE-yB]>ciE MERGE
,_>ciE MERGE,DRIdWScq?ke_vhqW>mcbORY,Sm*Sl6oepQb+_mab+g<nD]TRUCK;:c=ggT%>bORY-:1,2;::ASdzNOMtKe*Uc*d
ShSlywUwcr+k+e]%h7LAC%r+h*e]%h7LAC%r+p>r+]j7ONd*ELDeaNTOacRfnCHURbfCASgeHISdvb%SITbAbGgKf2HUB,Gb
G[e]fCMAPtih+HOUSE,kKb<UMbcLLA cTGRf0,Fc0TerbXG b+HOLbzERRYagILBOATnOhIj6S,SKI)ICE SKAdhk1[g%Te9p[a_
KnHe^Si3b1VEYa*nHFUEL PUMPgNwF_bXG[sNmZ]SdyPE,]SAFEdFSCISSORS,llBLADE SCISSORS,]SCISSORS,kCBLADE SCI
SSORS,_SCISSORS,_kesCr~oz?TAPE DRIdXl5E,pYm<FIST,m<hRVICdvY hRWRIT<hRtVm&m&t]m&_NIB,]NIB,sCkesCigq
B X,keigqB X,l&X,kel&X,qxtFketFiqg^Elzkeiqg^Elzh( hcd|hl _h(lzqxh(lzcwTESE hcgS cRDAVID,hIwKpHhIg&O
N-Sv=kehIg&ON-Sv=hICLUB-Sv=]uySf<_uySf<Sc6KfCSdxc~qx_Sf<n<_Sf<iql_sB]l__Sf<qxsBkeqxsBPINWHEELg
Id|hl _Sf<kepHiql_pHyKj+x0j+oRPINWHEELgIgQx0j+oRf!ImPsBkej+oRf!ImPsBnhx0SIXf= oRpHwKpHiql_wKpHkewKl$
KgQPETa6%g<=_p5]p5_p5j+PETa6%qx]p5n<iql_j+oRSf<kewKPINWhTpHSNOWbXcbTh3dyFOLIeJSNOWbXcbkebhVRcTSNOWbX
KbEc6KckkeSc6Kckg&ON-Sv=j+wKc$PELLbQpHkej+wKc$PELLbQpHj7fMd|hlu&qmSm*j7h|tVDROP-SHAhlu(t]DROP-SH
Ahlu(tVSHAhlu(t]SHAhlu(]uT qv_uT qv_mvx4]ml ie _X,kemvqSnHkzu3mXu3keu3hSgHcjnfzHhSgHcjzHke|nfzHke|z
HkecqgHcjzHkefI|zHbmV%STEM qzi^qvkemvx4kekcmvx4ke]kdoYke]kcl]FLOR!kdoYFLOR!kcBULLET;:mX:>t9qv^t9qvr
J>t9qvrJ^t9qvvsjNl= qvv_jNl= oO;lU:vsjNiCx4v_jNiCx4vsjNl= qvv_jNl= oO;:kz:>wbl= qv^wbl= oO;:mX
:>veqv^veoO;pkw=mmy+x2E;pkw=oIdi;pkxPmmy+x2E;pkxPoIdi;pkqmxPmmy+x2E;pkqmxPoIdi;lU:WIDE-e^%w]f
5?ie?n]gGtlw7w5g9;::DRAFT<iw y5Rf0-TIPP%w]wNy5wNw]mjwNy5mjwNw]]w]lbD du-h+%s(rhlbD jX-h+%s(rh]s(pF;l
U]bmV%:n_S=s(vaewwJ;aGQUa>]y5bkCAVE-oR]w]k+SHAD%_w]h*SHAD%_w]eM-dqTEDd(hl _w]FRONT-dqTEDd(hl _y5kCz5
,kellz5,oGkCz5,j8fH,oGllz5,n<ke_w]WHITE-FEAf_%wJ;:g<-FEAf_%:Sr*w7w5g9;lUg<-FEAf_%:Sr*w7w5g9;::TEa*RO
P-a|B%y5TEa*ROP-SHANK%w]WEDGE-f+%y5WEDGE-f+%w]fZ-qxw]|j8fH,k~DIcBSION!jO_qVme<k^_qWc8PbMICULa(fZd<Sb
UiqSUc8SbU>S-m[BAG bqIMIT)^S-m[BAG bqIMIT)OR[eZmDwHk6b>d<uWk6<Sm6t_[xrtY m>n>,h?n],tY oen>;psoA:exO
R;::_ml[g^%e0a!q*rz fZ<lmS,tVj6q*taj6q*>OUf[fs,^OUf[fs,FgnOUf[fs,kwno,kwpU;:fB=^:|sfTACK;::>igMa%h?^
TAbih?>TAbino[majFLOZbNE hj%BY sNRULE;:_bkCAVE-SID%ml:,[rZgc,[s(gc;:_Ss9:rZgc,s(gc;u[:>_Sk9vb_Sk9ulj
NvbjNul|jNvb|jNul_y7^_y7>rJt!^rJm%ESIS;::o9r?wnr?jQu_GAPP%majQCqaGAPP%majQ^sAn<f5;:h?:rZw7w4wo|w7|w
4|wov1s(v1rZ|v1s(|v1qKs*g9;::BRAILcjPATf] BciK;:BRAILcjPATf] e1-:1,2ae,3,13,23ae3,4,14,24ae4,34d>d?g
L,5,15,25ae5,35,135,235ae35,45,145,245ae45,345d>5d?5gL5,6,16,26ae6,36,136,236ae36,46,146,246ae46,34
6d>6d?6gL6,56,156,256ae56,ax,1ax,2axaeax,ay,1ay,2ayaeay,3ayjejfgL56,aAaBeh7,3aA3aB3eh37,4aA4aB4eh4ei
7d>7d?7gL7,5aA5aB5eh57,35aA35aB35eh357,45aA45aB45eh45ei57d>57d?57gL57,6aA6aB6eh67,36aA36aB36eh367,4
6aA46aB46eh46ei67d>67d?67gL67,56aA56aB56eh567,axaAaxaBaxehax7,ayaAayaBayehayei567je7jf7gL567,aEaFel8
,3aE3aF3el38,4aE4aF4el48,348d>8d?jt8,5aE5aF5el58,35aE35aF35el358,45aE45aF45el458,3458d>58d?5jt58,6aE
6aF6el68,36aE36aF36el368,46aE46aF46el468,3468d>68d?6jt68,56aE56aF56el568,axaEaxaFaxelax8,ayaEaya
Fayelay8,3ay8je8jfjt568,ejekgWaD3ej3ek3gW3aD4ej4ek4gW4aD3478d>78d?7jtaD5ej5ek5gW5aD35ej35ek35gW35aD4
5ej45ek45gW45aD34578d>578d?57jt5aD6ej6ek6gW6aD36ej36ek36gW36aD46ej46ek46gW46aD34678d>678d?67jt6aD5
6ej56ek56gW56aDaxejaxekaxgWaxaDayejayekaygWayaD3ay78je78jf7jt5678;:s(s_sA:wQ|vG
E;to|zls(|zl>^|zls(s_v1rZ|v1s(|v1ypxrx6xro9newnnewo|DeHw7|DeHwot>w7t>w7s_t>jQyTj(adbKo9jPndrxpEa|;:y
Tf+[:wQ|vGE;:s(s_sAf+:,[wQ[|vGE;tog9-iRwJ-iRrZ|g9-iRs(|g9-iRrZpE]n?s(pE]n?rZu~ dr]n?s(u~ dr]n?s2ew
Sr*w5ewSOUm~ w6g9sms1sAfctlsAfctmg9sms2g9=s1w5g9=Sr*w8g9=SOUm~ w9g9=s2jQm>n>q$oen>,oen>q$m>n>tlg9q$s
1w5g9q$Sr*jQoen>q$s1jQm>n>q$Sr*w5g9q$s2w6g9q$s1jQi+v2hhTcsiE;:v2s(dnNd&V<:lmS,n_S;:v2rxdnNd&V<:r0qK
S;::k+SfheECqajQh*SfheEu_jQgfeEu_jQl<eEu_jQgfeECqasAie,gfeEu_sAf5,kCiEo^i&CqajQkCfBo^i&u_jQu_mcmajQ
Cqamcmaw7jPjEk]rZyFjEk]wJlKwJ jErZjQyTivjUyuivjUwJ nb X,>^jPnbi_nxo9s_jPhKk^mb>g(dO^g(hmok>g(hm^g(d
Owv^hmg(>wv>hmg(^ok>g(dO^g(dOwv^hmg(^ok>g(hm^g(hmwv>hmg(>okztdOndzDdOndzi^ndzq^ndzthmndz
Dhmndzi>ndzq>ndztdOp7zDdOp7zi^p7zq^p7zthmp7zDhmp7zi>p7zq>p7ztdOjEzthnzi>l)zik*zDdOjEzDhnzq>l)zqiE;:r
ZzrzDdPhmjEzDe2;:s(zrztdPhmjEzte2;:rZzrh?DeIhmg) h?Da=;:s(zrh?DeIhmg) h?Da=;::zi>l)zqk*zq>l)zik*^|s
Ao0e^,sF jEw]vz jEs(yFjEvz;:wJ jE:vz,vZ;::r1jErZyFnb p|u+jEwJeeSbTjEs(yFnbd<uWjErZjQ>FfqiR^FfqiRdO
FfqiRhmFfqiRneu2bqIMIT)tfSPcYtfi9j2>_j8vb_j8ul_t!^_t!tf>kln&tf^kln&tf>Bb=<n&tf^Bb=<n&fBvO[q3iEvO[q3f
BvO[gc b+gfmgiEvO[gc b+l<mgfBvO[gc b+l<mgiEvO[gc b+gfmg>jNl=q*^jNl=q*>eEr1vbeEuBn&|>eEuBn&|^eEr1ul]y
7^]y7mnFENbeq4nvh=qgjNfZ<h)^jNo!i=Sk!qg^sye0syS mDjHa$LE;:SPb6h1jNfZ<:h)UP;::nfjOqJjOsyq3qJsyi(a|;:o
JjNfZ<:dPe2;:qgsyiqARM bM<b+v2:nmk*nmh)pTk*pTh)iE=dPfB=dPiE=hnfB=e2;::qJj>SET;:j>qL:oPk^majF^tu>jPAB
OVE;::j1[sNa|;ph:u3m!L,wIc8PbMICULAR;::mahj%BY sNa|=qUhj%BY u3j1[SUc8IMPOS%X,n<eCCfGWISE-oYn]?dOj
Pnbly;ph:_l]l]r2tE;:j1[lYmadrf^k*gkrRi~ES drf^iE;ps:m>n>lDoen>lDpHk^mbSf9E;::gkkqi|bRo6who6[q3S b+q
Wo6snS a>jX,^qVjE>qW>qVl)u3u2l)^qWbbTIE[>sLbbTIE[^sL]bbTb&i0[>sLi0[^sL_Hc1hM,]Hc1hM,fBu)i
Eu)>j)u)^j)u)INj5dgp<TIEi[p<INFINIdFNEGATED[u3j)-bM%igMa%Ss9bkTc1%c2h=INblASES ASecFFcjc$DUCT;:sF=Sm
Nm!L:,[leABOVE;::IDbOh1TO=SmNm!L,GLEICHgIK,f_MODYNAMIC;:vho6yV^rO;::]ml[hmjQ]oB_j1[hmjQ]j1[hmg9;:ERR
OR-l(:_Sk!g<nD_n?]n?_mb]j1;::RULE-bqAYbHwHqsSOLIDUS[oPwHi=xrBIG Sm6BIG wI|f5,nef5,vsbmV%jNn&v_bmV%j
Nn&TINY,cDY;:NgVn<:eZqsivqslgoM;:NgVlkoM[:e0f5;:NgVSk9:tO qslkoM;:gkoA:ewqscXoM;::NgVlgqsMODULO gkSU
MamMMg$[or,r?or qsFINIdgc6T or,or[j)nFor AdYAGEgKlDeSULjRFUNCi2u_INTEGRg$;:h<INTEGRg$lxf!a$i&PAdkAk=
POckWITHo^i&PAdkAk=POckfRINCLUD<f^POLE;::or Ak=A iw qsQUAf]IcTor oM;:or[:yuhXi0?tO,UNI+oPi(a|;::fs
,kw>qVoM;:tfSbhcu:bjoS,PIPfoc$JECgd;:r=i=lYmajFrn jG jFlejFrwleg)eem?gl]o6;:iegG[:j3jFrwoehkm>e1;
:r=b+:rYmbs&j1;::VECTcXcXj7c$DUCT;:x?i=:rvi(a|;aGEMIhhT c$DUCT[l<eTbHSMeHc$DUCT;:x?b+:rYmbs&j1;
:phx?i=xkx?b+|mbn<n]?r=b+qWiei^b+qWx?b+qWh7IcXoTiEHewh7IcXoTtfoV!bjoS,AcwGAMjRcXCOoTtO[bv;:lki=:ie?f
3a|;:tO[:oPoAa!;::lki=oAOR,lkjEtO,tO jEUNI+lkjEBa&jEtO,tO jEBa&jEUNI+lkl)ewkq[UNI+tO l)ewkq[tO,mcUNI
ONsnS,mctOsnS;:j)nC:tO,UNION;::mcUNIONsnS=SMeHoToAa!whoAORwh|oAex|oAOR;:gkh7SECT<oA:exOR;:SLOP<kw:OR
,a!;:oA:cXkYPP<oAexa![kIadbKOR[kIadbKa![sNDeIOR[sNDa=;:oAa![:|oPq3|i(a|;:lYVEE[i(a|;:oAOR[|:oPi(a|;
:tf:DOMAb+eCc=ggi2k&eCc=gggd;::sF[rwIDe!CALwhnesNa|[|wQnesNa|[newQvzwhvz[m>e1ajcCa&ie SIcCARd^GRUb
OwhhrS[pHvZ[xku|hr t8sF jEf5?r=jEsF,sF jEvz,|ha hr,gkbkSECUTIdWsFS,k~bkSECUTIdWsFS,sF[qZjEewwde$VALb
O[wtp|[mamDtE[mamDp|[uT jFtE[uT jFr1cXSmNodu+cXSmNpZr1cXSmNod[eZmDuBcXSmNod[eZmDr1cXSmNodwhuBcXSm
Nodwhr1cXSmNod[eZjEiEu+cXSmNod[eZjEh)r1cXttuBcXttp|=Sb>LE-h<t2u+a!gHLE-h<t2,p|=fRtttE=fRttr1xhhr jEt
Eu+xhhr jEr2r1u^cXhru+u^cXhr,r1u^jEtEu+u^jEr2r1jEuBxhhru+jEr1xhhr,r1xI jEuBxIu+xI jEr1xI;:SmNuur2tE
,p|[eZmDtE[eZINSIDE;:j)-h<uur2tE;:j)-h<SmNuur2tE;:SIcCa&:cXr2cXtE,jEr1jEsF,jEuBjEsF;:|NEST%:r2tE
,p|[i(a|;::uBkYPP<p|u+l)r2r1mcBYd&VEu+mcBYd&dXr1mcBY j9xIu+mcBY j9xI,SMa6bQTH$fzbQTH$SMa6bQTHa8t8fzb
QTHa8t8sF[BUMPY jFqDxisFq?xisF,qDxit2q?xit2,qDjEsFq?jEsF,qDjEt2q?jEt2,qDjEvZq?jEvZ,qDjEfRvZq?jEfRvZ
,|k6bR|SUCCEEDSeeqLbvjmqLbveeqLr=g)jmqLr=g)eeqLx?g)jmqLx?g)eexxwhSUc8xxwhSUBuVsFjmuVsFeeuVvzjmu
VvzeeuVvZjmuVvZeeuVt2jmuVt2nO>iqeQoMnO^iqeQoM;:mcSU:BSbUc8SbUBSbTt8c8SbTcXod;aGUBSbTjESUc8uWjESUBSE
TeeSbTjESUBuWjESUc8uWl)SUBuWl)ewfs%BY Da=gKd<SbUrz fZ<ryPITCHbYK[TEE TcWi6dYS!tO,bYh$NONbYh$k]>TACKl
KpUlKno,c8PbMICi&i=S,u2ne^sf|u2>sfu2|>sf|u2|>sfh?DeHhK>MEMBbQcR|o$lKpU[f3a|;:k]nolxq3jEk]pU;::|pU
,|no,j)nEcJ?qJj)nEcJ?pShjE[qJNEGjRSLa=;:vEi=ma:jFg);::pU[mag);:m!L[:xrvz;:ne:u2BINARY oV,t_[xrha qsN
EST%r2NEST%tE;:j)-h<SmN:r1t8uBcXod;::neSOLIDdRBINARY oV,kwneu2qs|SOLIDdRqs_u3NgV_u3s1_w6_w8_w9_w
4_wo]va]wn]w5]w6]w8]w9]w4]jQnn ]g9;:yTTIP :rylmS;:yuTIP :rylmS;:Ss9:gfsLl<sLt]pQsLsWpQrO;:mlyV^sLgfs
Ll<rO;::j(nD]fzEnD_fzEnD]dYYu$_dYYu$]PbOAG+_PbOAG+_HEXAG+]HEXAG+sN]HEXAG+]kwmb]mXn?_mXn?]mXoB_mXo
B]k^n?]k^oB_k^oB]sNj=E,_sNj=E,]q4j=E,_q4j=E,>w3mbk~rZg9S,>sAn<f5,h?oxs*g9;:rZs_:zlsA|wQv1t>g9;:yu
:j(adbKf+[wQf+[|vGE;:rZs_sAf+:,[wQ[|vGE;tojPnb X,i+v2hhTcsh)sF jErZjQoWvz jErZyFjEoWvZ;:wJ nb :tEjmS
ET;tor?w7r?jQoWvz jEw]wJ jEoWvZ,vz jErZyFjEvZ,rZjPjEoWvz,wJ jEoWvz,rxwNnvg9lKSmNkPg9lKeMSmNSOUdkjQ_k
HgI,]k^Sf<_k^Sf<]v_PbOAG+_v_PbOAGON;lU:kwmbOVAL[OV!mDj1[mamDmbn<SALTIRE;aGmNkPsAfc%e^,eMSmNSOUdks
Afc%iRSmNkPsAsNiReMSmNSOUdksAsNiRBe8v2rxTHbLNORm|lKBe8v2rxTHbLNORm|,rZwNvawNw7wNwnwNw4wNjQnn wNw6wNw
5wNw8wNw9wNwowNmjvawNmjw7wNmjwnwNmjjQCqawNt7jQu_wNt7wozu,o9zu,s(zu,rxzu;2B76::s2zu,s1zutlzutmzu,z
4|xrz0|xrz6|xrz3|xrsNTAB fvq4TAB fvrZwNg9i[s(wNvawNxKrxwNw7wNg9i[rZwNwnwNxKo9wNwowNvxo9wNvxs(wNvxrxw
NvxrZ]n<_va]n<_w7]n<_wn]n<_g9;:u_wN:^U-m[jQl<U-m[jQ>U-m[jQgfU-m[g9;:REgj :h)iE;:NEWh<:h)iE;::hImfg9
S eSL<eCCfGWISE,s(]g9;2B97aGlue*i9A ELECdzNICS;:lbD :du-h+%rZyLk+h+%o9yLdu-h+%s(yLh*h+%rxe$LeK!pF;:
:]rZyL]o9yL]s(yL]rxyLz3qdr0z3qdqKS;:z0qd:r0qKS;::z4qdlmS,z6qdlmS,z4qdryz6qdn_S;:]bmV%:n_S=r
Zwnews(vaewrZvaews(woewo9w7ewo9woewrxw7ewrxg9;:RIBBcTjP:hmh)hmk*dOh)dOk*>dP^dP>hn^e2;::o9_u~[sNeOd
Orgb+A f!jNBOX;:kYPP<:_Sf9bR_ewg<i|bRg<i|ES;::l&pLkzX,n<X,n<g?X,g<nCg^bH]ml g^bHnf]PbOAG+sN]OCTAG+]O
CTAGON;:]mX:t[qVg^bHvhqVg^bHvsqVg^bHv_qVg^ED;::NEPTUNE hHglgfxnl<xnkzuy]CUSP,oYkzuy]CUSP,_uyCUSP,o
Y_uyCUSPnOoS p+,UNCERTAINTY?GROdOfM;:PLUdrhH:gllae<,FIVE;::i6PLUdsc$SERPINaJSdwEA,HYGIEaSHOLdSNESSd
S_ifSELEcG]ml ONlzTRUE kzifARTaLUPIbuHADbRZEdSKRONOS,APOLL+ADMETOS,VULCANdSPOSEID+rYsB^rOgIgS[>rOg
S[^sLrZz!o9z!s(z!rxz!ERb?hHfXERb?hHdEahDNA;:RUSSffASdzLOGtK:VIGINiZNOVIckQUINiZBINOVILbEbOAG+dxDECIL
E;::sF[INFINIdFjUUNITEDlHahPa)TEDnHj)DnHPASSEDnHqJ^jOHELLSCHREIBbQPAUSElH;"

end Callwise.CharName

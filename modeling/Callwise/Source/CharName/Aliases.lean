/-!
# Aliases of characters

Control characters have no names, but aliases; other characters have abbreviations or corrected
names beside their own.
-/

namespace Callwise.CharName

/-- The table of the aliases. A character with several aliases stands in several rows. -/
def aliases : String := "
arNULLq>e^b>q>TEXT,rCT,v7SI+ENQUIRY,pxGE,ALERT,eMSPAbesNr|,mth=q4r|,hHFEbHCeGepREgj;:fGb>-SHIFT :fXZ
ERO;::DAddcnK ESCAPE;:DEVICE bkdzL :xw;::qmpxGbEYNg_f1IDckv7iLjVCa9bJmtkHeedaTUdhESCAPE;:I
Ne+g$q% :e<,laglONE;7bVbqETbDADD<CHa)CT)hVOCTbTPc=bUbcAK c8MITT%b6bCO bcAK HEc<knNEXT cnEq>SELECT%AR
EA,mtSELECT%AREA;:sNr|aabUi=JUdaFICg$;::q4r| SbUc6TI!h<ogc6TI!h<eMWa*,oWh<FEEDnNSHIFT dEnNSHIFT laDE
VICE bkdzLadiFPRIVeJUSE fXPRIVeJUSE glSbTi6MITadATbya9EL CHa)CT)MESSepWAITb>q>c$TECT%AREA,mtc$TECT%A
REAq>STf&nNGc+Hb%Cp!INdzDUCERnNCp!INdzDUC)bkdzLabQUENCE INdzDUC)STR<djcDAdv,Oc8AT<SYSTEM bjMexPRIVAC
Y MESSeqAPqB PRkVbjMa!;1A2yXGHvYGHA;616:u=hVp~rcq9E;709lZd<mPhaaaKEW%fB;CDEnWo?LLLA;E9D:gX~FO FON;E9
F:gX~FO FAY;EA3:gX~RO;EA5:gX~LO;FD0ptkFBKA-d+G GI MGO RGd5;11ECxGo<-mHo<-iOtPo<,o<-KHIEUKH;1BBD:su~n
9I;2118::WEIERSdwc~ELLIPTb%FUNCgd;2448:MICR :cTUSnHDa=lH;2B7A::z4|vGE;2B7C::z6|vGE;A015::YIq)Idjrj;A
A6E:po~ks LLA;FE18zO^:_sSl=;FEFbVBYdgORDbQfM;122D4wkNU11 :iUirNU11 BURi[BUR;12327wYKAch;1680B:x!A fK
GBIEE;16881:x!B PUcHAAM;1688E:x!B cHOM;168DC:x!Cd)TFON;1697Dx!bwcHOP;16E56tqwTHaf;16E76tqvNHaf;1Bao:
HbOAIGANAo?E-1;1D0C5:zcmySKLIRr)VASIS;1E899:MbME KIKAKUIq)M17:2 MBO,4 MBOO;arNUL,SOHalX,ETX,EcYENQ,
AbiBbJBS,Cp!r|,h<FEbHh<r|,FF,CReaFT c2eaFT b<DckDCas4,NAK,SYN,ETB,C$EOMee,ESC,FILEslGROUPslRECORDslU
NITslSP;7bVDbJPaZHcWBPH,NBH,b=,NbJSc|ESA;:Cp!r|aabUi=JUdaFICg$;::h<r| SbUc6TI!h<hnc6TI!h<dPoWknSb>L
E-SHIFTanSb>LE-SHIFT-3,DCS,PRIVeJUSE-1,PRIVeJUSEanSdBCbfMWq>GUa*%AREA,mtGUa*%AREaTOS,SGC,SCI,CSIal,O
SC,PM,APC,NBSP;ADaGHY;34bVCGJ;61C::ALM;180B::FVSas3,MVS,FVS4;200B::ZWSP,ZWNJ,ZWJ,LRM,RLM;202A::Lc<R
LbDDF,Lc^RLcMNBSP;205bVMMSP,WJ;2066::Lc>RclFSI,PDI;FEaqVS:as16;FEFbVZWNBSP;E010arVS1aC256;9::TaYNE
W h=VT;EaGOaj;19::EM;1C::FS,GS,RS,US;88::HdBHTJ,VdBPLD,PcrRIak2ak3;91:PU:1,2;96aGc5EPA;FEFbVBOM;9::H
T,EOL;A::LF;A::NL;"

end Callwise.CharName

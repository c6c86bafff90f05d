import PromptContract.Libraries.Text.CharacterName.Run

/-!
# Names of characters: East Asia

The names of East Asia, Africa and the Near East, and of forms for print:
the characters from U+3000 to U+FFFF, by runs.
-/

namespace PromptContract.Text

/-- The names of East Asia, Africa and the Near East, and of forms for print. -/
def eastAsianNames : Array NameRun :=
  #[
    ⟨0x3000, ["aIDEOGRAPHIC SPACEb COMMAb FULL STOPaDITTO MARKaJAPANESE INDUSTRIAL STANDARD SYMBOL",
      "aIDEOGRAPHIC ITERATION MARKb CLOSING MARKb NUMBER ZEROaLEFT ANGLE BRACKET",
      "aRIGHT ANGLE BRACKETaLEFT DOUBLE ANGLE BRACKETaRIGHT DOUBLE ANGLE BRACKET",
      "aLEFT CORNER BRACKETaRIGHT CORNER BRACKETaLEFT WHITE CORNER BRACKET",
      "aRIGHT WHITE CORNER BRACKETaLEFT BLACK LENTICULAR BRACKETaRIGHT BLACK LENTICULAR BRACKET",
      "aPOSTAL MARKaGETA MARKaLEFT TORTOISE SHELL BRACKETaRIGHT TORTOISE SHELL BRACKET",
      "aLEFT WHITE LENTICULAR BRACKETaRIGHT WHITE LENTICULAR BRACKET",
      "aLEFT WHITE TORTOISE SHELL BRACKETaRIGHT WHITE TORTOISE SHELL BRACKET",
      "aLEFT WHITE SQUARE BRACKETaRIGHT WHITE SQUARE BRACKETaWAVE DASH",
      "aREVERSED DOUBLE PRIME QUOTATION MARKaDOUBLE PRIME QUOTATION MARK",
      "aLOW DOUBLE PRIME QUOTATION MARKaPOSTAL MARK FACEaHANGZHOU NUMERAL ONEc TWOc THREEc FOUR",
      "c FIVEc SIXc SEVENc EIGHTc NINEaIDEOGRAPHIC LEVEL TONE MARKb RISING TONE MARK",
      "b DEPARTING TONE MARKb ENTERING TONE MARKaHANGUL SINGLE DOT TONE MARKb DOUBLE DOT TONE MARK",
      "aWAVY DASHaVERTICAL KANA REPEAT MARKd WITH VOICED SOUND MARKd MARK UPPER HALF",
      "d WITH VOICED SOUND MARK UPPER HALFd MARK LOWER HALFaCIRCLED POSTAL MARK",
      "aIDEOGRAPHIC TELEGRAPH LINE FEED SEPARATOR SYMBOLaHANGZHOU NUMERAL TENc TWENTYc THIRTY",
      "aVERTICAL IDEOGRAPHIC ITERATION MARKaMASU MARKaPART ALTERNATION MARK",
      "aIDEOGRAPHIC VARIATION INDICATORb HALF FILL SPACE"]⟩,
    ⟨0x3041, ["aHIRAGANA LETTER SMALL Ac Ac SMALL Ic Ic SMALL Uc Uc SMALL Ec Ec SMALL Oc Oc KAc GA",
      "c KIc GIc KUc GUc KEc GEc KOc GOc SAc ZAc SIc ZIc SUc ZUc SEc ZEc SOc ZOc TAc DAc TIc DI",
      "c SMALL TUc TUc DUc TEc DEc TOc DOc NAc NIc NUc NEc NOc HAc BAc PAc HIc BIc PIc HUc BUc PU",
      "c HEc BEc PEc HOc BOc POc MAc MIc MUc MEc MOc SMALL YAc YAc SMALL YUc YUc SMALL YOc YOc RA",
      "c RIc RUc REc ROc SMALL WAc WAc WIc WEc WOc Nc VUc SMALL KAd KE"]⟩,
    ⟨0x3099, ["aCOMBINING KATAKANA-HIRAGANA VOICED SOUND MARKd SEMI-VOICED SOUND MARK",
      "aKATAKANA-HIRAGANA VOICED SOUND MARKc SEMI-VOICED SOUND MARKaHIRAGANA ITERATION MARK",
      "b VOICED ITERATION MARKb DIGRAPH YORIaKATAKANA-HIRAGANA DOUBLE HYPHENb LETTER SMALL Ac A",
      "c SMALL Ic Ic SMALL Uc Uc SMALL Ec Ec SMALL Oc Oc KAc GAc KIc GIc KUc GUc KEc GEc KOc GO",
      "c SAc ZAc SIc ZIc SUc ZUc SEc ZEc SOc ZOc TAc DAc TIc DIc SMALL TUc TUc DUc TEc DEc TOc DO",
      "c NAc NIc NUc NEc NOc HAc BAc PAc HIc BIc PIc HUc BUc PUc HEc BEc PEc HOc BOc POc MAc MI",
      "c MUc MEc MOc SMALL YAc YAc SMALL YUc YUc SMALL YOc YOc RAc RIc RUc REc ROc SMALL WAc WA",
      "c WIc WEc WOc Nc VUc SMALL KAd KEc VAc VIc VEc VOb MIDDLE DOT",
      "b-HIRAGANA PROLONGED SOUND MARKb ITERATION MARKb VOICED ITERATION MARKb DIGRAPH KOTO"]⟩,
    ⟨0x3105, ["aBOPOMOFO LETTER Bc Pc Mc Fc Dc Tc Nc Lc Gc Kc Hc Jc Qc Xc ZHc CHc SHc Rc Zc Cc S",
      "c Ac Oc Ec EHc AIc EIc AUc OUc ANc ENc ANGc ENGc ERc Ic Uc IUc Vc NGc GNc IH",
      "c O WITH DOT ABOVEc NN"]⟩,
    ⟨0x3131, ["aHANGUL LETTER KIYEOKc SSANGKIYEOKc KIYEOK-SIOSc NIEUNd-CIEUCd-HIEUHc TIKEUT",
      "c SSANGTIKEUTc RIEULd-KIYEOKd-MIEUMd-PIEUPd-SIOSd-THIEUTHd-PHIEUPHd-HIEUHc MIEUMc PIEUP",
      "c SSANGPIEUPc PIEUP-SIOSc SIOSc SSANGSIOSc IEUNGc CIEUCc SSANGCIEUCc CHIEUCHc KHIEUKH",
      "c THIEUTHc PHIEUPHc HIEUHc Ac AEc YAc YAEc EOc Ec YEOc YEc Oc WAc WAEc OEc YOc Uc WEOc WE",
      "c WIc YUc EUc YIc Ib FILLERb LETTER SSANGNIEUNc NIEUN-TIKEUTd-SIOSd-PANSIOS",
      "c RIEUL-KIYEOK-SIOSd-TIKEUTd-PIEUP-SIOSd-PANSIOSd-YEORINHIEUHc MIEUM-PIEUPd-SIOSd-PANSIOS",
      "c KAPYEOUNMIEUMc PIEUP-KIYEOKd-TIKEUTd-SIOS-KIYEOKe-TIKEUTd-CIEUCd-THIEUTHc KAPYEOUNPIEUP",
      "c KAPYEOUNSSANGPIEUPc SIOS-KIYEOKd-NIEUNd-TIKEUTd-PIEUPd-CIEUCc PANSIOSc SSANGIEUNG",
      "c YESIEUNGd-SIOSd-PANSIOSc KAPYEOUNPHIEUPHc SSANGHIEUHc YEORINHIEUHc YO-YAd-YAEd-Ic YU-YEO",
      "d-YEd-Ic ARAEAc ARAEAE"]⟩,
    ⟨0x3190, ["aIDEOGRAPHIC ANNOTATION LINKING MARKc REVERSE MARKc ONE MARKc TWO MARKc THREE MARK",
      "c FOUR MARKc TOP MARKc MIDDLE MARKc BOTTOM MARKc FIRST MARKc SECOND MARKc THIRD MARK",
      "c FOURTH MARKc HEAVEN MARKc EARTH MARKc MAN MARKaBOPOMOFO LETTER BUc ZIc JIc GUc EEc ENN",
      "c OOc ONNc IRc ANNc INNc UNNc IMc NGGc AINNc AUNNc AMc OMc ONGc INNNb FINAL LETTER Pd Td K",
      "d Hb LETTER GHc LHc ZYb FINAL LETTER Gb LETTER GWc KWc OEc AHaCJK STROKE Tc WGc XGc BXGc SW",
      "c HZZc HZGc HPc HZWGc SZWGc HZTc HZZPc HPWGc HZWc HZZZc Nc Hc Sc Pc SPc Dc HZc HGc SZc SWZ",
      "c STc SGc PDc PZc TNc SZZc SWGc HXWGc HZZZGc PGc Q"]⟩,
    ⟨0x31F0, ["aKATAKANA LETTER SMALL KUd SId SUd TOd NUd HAd HId HUd HEd HOd MUd RAd RId RUd RE",
      "d ROaPARENTHESIZED HANGUL KIYEOKc NIEUNc TIKEUTc RIEULc MIEUMc PIEUPc SIOSc IEUNGc CIEUC",
      "c CHIEUCHc KHIEUKHc THIEUTHc PHIEUPHc HIEUHc KIYEOK Ac NIEUN Ac TIKEUT Ac RIEUL Ac MIEUM A",
      "c PIEUP Ac SIOS Ac IEUNG Ac CIEUC Ac CHIEUCH Ac KHIEUKH Ac THIEUTH Ac PHIEUPH Ac HIEUH A",
      "c CIEUC Ub KOREAN CHARACTER OJEONd O HU"]⟩,
    ⟨0x3220, ["aPARENTHESIZED IDEOGRAPH ONEc TWOc THREEc FOURc FIVEc SIXc SEVENc EIGHTc NINEc TEN",
      "c MOONc FIREc WATERc WOODc METALc EARTHc SUNc STOCKc HAVEc SOCIETYc NAMEc SPECIAL",
      "c FINANCIALc CONGRATULATIONc LABORc REPRESENTc CALLc STUDYc SUPERVISEc ENTERPRISEc RESOURCE",
      "c ALLIANCEc FESTIVALc RESTc SELFc REACHaCIRCLED IDEOGRAPH QUESTIONc KINDERGARTENc SCHOOL",
      "c KOTOb NUMBER TEN ON BLACK SQUAREc TWENTY ON BLACK SQUAREc THIRTY ON BLACK SQUARE",
      "c FORTY ON BLACK SQUAREc FIFTY ON BLACK SQUAREc SIXTY ON BLACK SQUARE",
      "c SEVENTY ON BLACK SQUAREc EIGHTY ON BLACK SQUAREaPARTNERSHIP SIGN",
      "aCIRCLED NUMBER TWENTY ONEd TWOd THREEd FOURd FIVEd SIXd SEVENd EIGHTd NINEc THIRTYd ONE",
      "d TWOd THREEd FOURd FIVEb HANGUL KIYEOKc NIEUNc TIKEUTc RIEULc MIEUMc PIEUPc SIOSc IEUNG",
      "c CIEUCc CHIEUCHc KHIEUKHc THIEUTHc PHIEUPHc HIEUHc KIYEOK Ac NIEUN Ac TIKEUT Ac RIEUL A",
      "c MIEUM Ac PIEUP Ac SIOS Ac IEUNG Ac CIEUC Ac CHIEUCH Ac KHIEUKH Ac THIEUTH Ac PHIEUPH A",
      "c HIEUH Ab KOREAN CHARACTER CHAMKOd JUEUIb HANGUL IEUNG UaKOREAN STANDARD SYMBOL",
      "aCIRCLED IDEOGRAPH ONEc TWOc THREEc FOURc FIVEc SIXc SEVENc EIGHTc NINEc TENc MOONc FIRE",
      "c WATERc WOODc METALc EARTHc SUNc STOCKc HAVEc SOCIETYc NAMEc SPECIALc FINANCIAL",
      "c CONGRATULATIONc LABORc SECRETc MALEc FEMALEc SUITABLEc EXCELLENTc PRINTc ATTENTIONc ITEM",
      "c RESTc COPYc CORRECTc HIGHc CENTREc LOWc LEFTc RIGHTc MEDICINEc RELIGIONc STUDYc SUPERVISE",
      "c ENTERPRISEc RESOURCEc ALLIANCEc NIGHTb NUMBER THIRTY SIXd SEVENd EIGHTd NINEc FORTYd ONE",
      "d TWOd THREEd FOURd FIVEd SIXd SEVENd EIGHTd NINEc FIFTY",
      "aIDEOGRAPHIC TELEGRAPH SYMBOL FOR JANUARYe FEBRUARYe MARCHe APRILe MAYe JUNEe JULYe AUGUST",
      "e SEPTEMBERe OCTOBERe NOVEMBERe DECEMBERaSQUARE HGb ERGb EVaLIMITED LIABILITY SIGN",
      "aCIRCLED KATAKANA Ac Ic Uc Ec Oc KAc KIc KUc KEc KOc SAc SIc SUc SEc SOc TAc TIc TUc TEc TO",
      "c NAc NIc NUc NEc NOc HAc HIc HUc HEc HOc MAc MIc MUc MEc MOc YAc YUc YOc RAc RIc RUc RE",
      "c ROc WAc WIc WEc WOaSQUARE ERA NAME REIWAb APAATOb ARUHUAb ANPEAb AARUb ININGUb INTIb UON",
      "b ESUKUUDOb EEKAAb ONSUb OOMUb KAIRIb KARATTOb KARORIIb GARONb GANMAb GIGAb GINIIb KYURII",
      "b GIRUDAAb KIROb KIROGURAMUb KIROMEETORUb KIROWATTOb GURAMUb GURAMUTONb KURUZEIROb KUROONE",
      "b KEESUb KORUNAb KOOPOb SAIKURUb SANTIIMUb SIRINGUb SENTIb SENTOb DAASUb DESIb DORUb TON",
      "b NANOb NOTTOb HAITUb PAASENTOb PAATUb BAARERUb PIASUTORUb PIKURUb PIKOb BIRUb HUARADDO",
      "b HUIITOb BUSSYERUb HURANb HEKUTAARUb PESOb PENIHIb HERUTUb PENSUb PEEZIb BEETAb POINTO",
      "b BORUTOb HONb PONDOb HOORUb HOONb MAIKUROb MAIRUb MAHHAb MARUKUb MANSYONb MIKURONb MIRI",
      "b MIRIBAARUb MEGAb MEGATONb MEETORUb YAADOb YAARUb YUANb RITTORUb RIRAb RUPIIb RUUBURU",
      "b REMUb RENTOGENb WATTOaIDEOGRAPHIC TELEGRAPH SYMBOL FOR HOUR ZEROf ONEf TWOf THREEf FOUR",
      "f FIVEf SIXf SEVENf EIGHTf NINEf TENf ELEVENf TWELVEf THIRTEENf FOURTEENf FIFTEENf SIXTEEN",
      "f SEVENTEENf EIGHTEENf NINETEENf TWENTYg-ONEg-TWOg-THREEg-FOURaSQUARE HPAb DAb AUb BARb OV",
      "b PCb DMc SQUAREDc CUBEDb IUb ERA NAME HEISEId SYOUWAd TAISYOUd MEIZIb CORPORATIONb PA AMPS",
      "b NAb MU Ab MAb KAb KBb MBb GBb CALb KCALb PFb NFb MU Fc Gb MGb KGb HZb KHZb MHZb GHZb THZ",
      "b MU Lb MLb DLb KLb FMb NMb MU Mb MMb CMb KMb MM SQUAREDb CM SQUAREDb M SQUAREDb KM SQUARED",
      "b MM CUBEDb CM CUBEDb M CUBEDb KM CUBEDb M OVER Se SQUAREDb PAb KPAb MPAb GPAb RADc OVER S",
      "e SQUAREDb PSb NSb MU Sb MSb PVb NVb MU Vb MVb KVb MV MEGAb PWb NWb MU Wb MWb KWb MW MEGA",
      "b K OHMb M OHMb AMb BQb CCb CDb C OVER KGb COb DBb GYb HAb HPb INb KKb KM CAPITALb KTb LM",
      "b LNb LOGb LXb MB SMALLb MILb MOLb PHb PMb PPMb PRb SRb SVb WBb V OVER Mb A OVER M",
      "aIDEOGRAPHIC TELEGRAPH SYMBOL FOR DAY ONEf TWOf THREEf FOURf FIVEf SIXf SEVENf EIGHTf NINE",
      "f TENf ELEVENf TWELVEf THIRTEENf FOURTEENf FIFTEENf SIXTEENf SEVENTEENf EIGHTEENf NINETEEN",
      "f TWENTYg-ONEg-TWOg-THREEg-FOURg-FIVEg-SIXg-SEVENg-EIGHTg-NINEf THIRTYg-ONEaSQUARE GAL"]⟩,
    ⟨0x4DC0, ["aHEXAGRAM FOR THE CREATIVE HEAVENd RECEPTIVE EARTHc DIFFICULTY AT THE BEGINNING",
      "c YOUTHFUL FOLLYc WAITINGc CONFLICTc THE ARMYc HOLDING TOGETHERc SMALL TAMINGc TREADING",
      "c PEACEc STANDSTILLc FELLOWSHIPc GREAT POSSESSIONc MODESTYc ENTHUSIASMc FOLLOWING",
      "c WORK ON THE DECAYEDc APPROACHc CONTEMPLATIONc BITING THROUGHc GRACEc SPLITTING APART",
      "c RETURNc INNOCENCEc GREAT TAMINGc MOUTH CORNERSc GREAT PREPONDERANCEc THE ABYSMAL WATER",
      "d CLINGING FIREc INFLUENCEc DURATIONc RETREATc GREAT POWERc PROGRESS",
      "c DARKENING OF THE LIGHTc THE FAMILYc OPPOSITIONc OBSTRUCTIONc DELIVERANCEc DECREASE",
      "c INCREASEc BREAKTHROUGHc COMING TO MEETc GATHERING TOGETHERc PUSHING UPWARDc OPPRESSION",
      "c THE WELLc REVOLUTIONc THE CAULDRONd AROUSING THUNDERd KEEPING STILL MOUNTAINc DEVELOPMENT",
      "c THE MARRYING MAIDENc ABUNDANCEc THE WANDERERd GENTLE WINDd JOYOUS LAKEc DISPERSION",
      "c LIMITATIONc INNER TRUTHc SMALL PREPONDERANCEc AFTER COMPLETIONc BEFORE COMPLETION"]⟩,
    ⟨0xA000, ["aYI SYLLABLE ITc IXc Ic IPc IETc IEXc IEc IEPc ATc AXc Ac APc UOXc UOc UOPc OTc OX",
      "c Oc OPc EXc Ec WUc BITc BIXc BIc BIPc BIETc BIEXc BIEc BIEPc BATc BAXc BAc BAPc BUOXc BUO",
      "c BUOPc BOTc BOXc BOc BOPc BEXc BEc BEPc BUTc BUXc BUc BUPc BURXc BURc BYTc BYXc BYc BYP",
      "c BYRXc BYRc PITc PIXc PIc PIPc PIEXc PIEc PIEPc PATc PAXc PAc PAPc PUOXc PUOc PUOPc POT",
      "c POXc POc POPc PUTc PUXc PUc PUPc PURXc PURc PYTc PYXc PYc PYPc PYRXc PYRc BBITc BBIXc BBI",
      "c BBIPc BBIETc BBIEXc BBIEc BBIEPc BBATc BBAXc BBAc BBAPc BBUOXc BBUOc BBUOPc BBOTc BBOX",
      "c BBOc BBOPc BBEXc BBEc BBEPc BBUTc BBUXc BBUc BBUPc BBURXc BBURc BBYTc BBYXc BBYc BBYP",
      "c NBITc NBIXc NBIc NBIPc NBIEXc NBIEc NBIEPc NBATc NBAXc NBAc NBAPc NBOTc NBOXc NBOc NBOP",
      "c NBUTc NBUXc NBUc NBUPc NBURXc NBURc NBYTc NBYXc NBYc NBYPc NBYRXc NBYRc HMITc HMIXc HMI",
      "c HMIPc HMIEXc HMIEc HMIEPc HMATc HMAXc HMAc HMAPc HMUOXc HMUOc HMUOPc HMOTc HMOXc HMO",
      "c HMOPc HMUTc HMUXc HMUc HMUPc HMURXc HMURc HMYXc HMYc HMYPc HMYRXc HMYRc MITc MIXc MIc MIP",
      "c MIEXc MIEc MIEPc MATc MAXc MAc MAPc MUOTc MUOXc MUOc MUOPc MOTc MOXc MOc MOPc MEXc ME",
      "c MUTc MUXc MUc MUPc MURXc MURc MYTc MYXc MYc MYPc FITc FIXc FIc FIPc FATc FAXc FAc FAP",
      "c FOXc FOc FOPc FUTc FUXc FUc FUPc FURXc FURc FYTc FYXc FYc FYPc VITc VIXc VIc VIPc VIET",
      "c VIEXc VIEc VIEPc VATc VAXc VAc VAPc VOTc VOXc VOc VOPc VEXc VEPc VUTc VUXc VUc VUPc VURX",
      "c VURc VYTc VYXc VYc VYPc VYRXc VYRc DITc DIXc DIc DIPc DIEXc DIEc DIEPc DATc DAXc DAc DAP",
      "c DUOXc DUOc DOTc DOXc DOc DOPc DEXc DEc DEPc DUTc DUXc DUc DUPc DURXc DURc TITc TIXc TI",
      "c TIPc TIEXc TIEc TIEPc TATc TAXc TAc TAPc TUOTc TUOXc TUOc TUOPc TOTc TOXc TOc TOPc TEX",
      "c TEc TEPc TUTc TUXc TUc TUPc TURXc TURc DDITc DDIXc DDIc DDIPc DDIEXc DDIEc DDIEPc DDAT",
      "c DDAXc DDAc DDAPc DDUOXc DDUOc DDUOPc DDOTc DDOXc DDOc DDOPc DDEXc DDEc DDEPc DDUTc DDUX",
      "c DDUc DDUPc DDURXc DDURc NDITc NDIXc NDIc NDIPc NDIEXc NDIEc NDATc NDAXc NDAc NDAPc NDOT",
      "c NDOXc NDOc NDOPc NDEXc NDEc NDEPc NDUTc NDUXc NDUc NDUPc NDURXc NDURc HNITc HNIXc HNI",
      "c HNIPc HNIETc HNIEXc HNIEc HNIEPc HNATc HNAXc HNAc HNAPc HNUOXc HNUOc HNOTc HNOXc HNOP",
      "c HNEXc HNEc HNEPc HNUTc NITc NIXc NIc NIPc NIEXc NIEc NIEPc NAXc NAc NAPc NUOXc NUOc NUOP",
      "c NOTc NOXc NOc NOPc NEXc NEc NEPc NUTc NUXc NUc NUPc NURXc NURc HLITc HLIXc HLIc HLIP",
      "c HLIEXc HLIEc HLIEPc HLATc HLAXc HLAc HLAPc HLUOXc HLUOc HLUOPc HLOXc HLOc HLOPc HLEXc HLE",
      "c HLEPc HLUTc HLUXc HLUc HLUPc HLURXc HLURc HLYTc HLYXc HLYc HLYPc HLYRXc HLYRc LITc LIX",
      "c LIc LIPc LIETc LIEXc LIEc LIEPc LATc LAXc LAc LAPc LUOTc LUOXc LUOc LUOPc LOTc LOXc LO",
      "c LOPc LEXc LEc LEPc LUTc LUXc LUc LUPc LURXc LURc LYTc LYXc LYc LYPc LYRXc LYRc GITc GIX",
      "c GIc GIPc GIETc GIEXc GIEc GIEPc GATc GAXc GAc GAPc GUOTc GUOXc GUOc GUOPc GOTc GOXc GO",
      "c GOPc GETc GEXc GEc GEPc GUTc GUXc GUc GUPc GURXc GURc KITc KIXc KIc KIPc KIEXc KIEc KIEP",
      "c KATc KAXc KAc KAPc KUOXc KUOc KUOPc KOTc KOXc KOc KOPc KETc KEXc KEc KEPc KUTc KUXc KU",
      "c KUPc KURXc KURc GGITc GGIXc GGIc GGIEXc GGIEc GGIEPc GGATc GGAXc GGAc GGAPc GGUOTc GGUOX",
      "c GGUOc GGUOPc GGOTc GGOXc GGOc GGOPc GGETc GGEXc GGEc GGEPc GGUTc GGUXc GGUc GGUPc GGURX",
      "c GGURc MGIEXc MGIEc MGATc MGAXc MGAc MGAPc MGUOXc MGUOc MGUOPc MGOTc MGOXc MGOc MGOPc MGEX",
      "c MGEc MGEPc MGUTc MGUXc MGUc MGUPc MGURXc MGURc HXITc HXIXc HXIc HXIPc HXIETc HXIEXc HXIE",
      "c HXIEPc HXATc HXAXc HXAc HXAPc HXUOTc HXUOXc HXUOc HXUOPc HXOTc HXOXc HXOc HXOPc HXEXc HXE",
      "c HXEPc NGIEXc NGIEc NGIEPc NGATc NGAXc NGAc NGAPc NGUOTc NGUOXc NGUOc NGOTc NGOXc NGO",
      "c NGOPc NGEXc NGEc NGEPc HITc HIEXc HIEc HATc HAXc HAc HAPc HUOTc HUOXc HUOc HUOPc HOTc HOX",
      "c HOc HOPc HEXc HEc HEPc WATc WAXc WAc WAPc WUOXc WUOc WUOPc WOXc WOc WOPc WEXc WEc WEP",
      "c ZITc ZIXc ZIc ZIPc ZIEXc ZIEc ZIEPc ZATc ZAXc ZAc ZAPc ZUOXc ZUOc ZUOPc ZOTc ZOXc ZOc ZOP",
      "c ZEXc ZEc ZEPc ZUTc ZUXc ZUc ZUPc ZURXc ZURc ZYTc ZYXc ZYc ZYPc ZYRXc ZYRc CITc CIXc CI",
      "c CIPc CIETc CIEXc CIEc CIEPc CATc CAXc CAc CAPc CUOXc CUOc CUOPc COTc COXc COc COPc CEX",
      "c CEc CEPc CUTc CUXc CUc CUPc CURXc CURc CYTc CYXc CYc CYPc CYRXc CYRc ZZITc ZZIXc ZZI",
      "c ZZIPc ZZIETc ZZIEXc ZZIEc ZZIEPc ZZATc ZZAXc ZZAc ZZAPc ZZOXc ZZOc ZZOPc ZZEXc ZZEc ZZEP",
      "c ZZUXc ZZUc ZZUPc ZZURXc ZZURc ZZYTc ZZYXc ZZYc ZZYPc ZZYRXc ZZYRc NZITc NZIXc NZIc NZIP",
      "c NZIEXc NZIEc NZIEPc NZATc NZAXc NZAc NZAPc NZUOXc NZUOc NZOXc NZOPc NZEXc NZEc NZUXc NZU",
      "c NZUPc NZURXc NZURc NZYTc NZYXc NZYc NZYPc NZYRXc NZYRc SITc SIXc SIc SIPc SIEXc SIEc SIEP",
      "c SATc SAXc SAc SAPc SUOXc SUOc SUOPc SOTc SOXc SOc SOPc SEXc SEc SEPc SUTc SUXc SUc SUP",
      "c SURXc SURc SYTc SYXc SYc SYPc SYRXc SYRc SSITc SSIXc SSIc SSIPc SSIEXc SSIEc SSIEPc SSAT",
      "c SSAXc SSAc SSAPc SSOTc SSOXc SSOc SSOPc SSEXc SSEc SSEPc SSUTc SSUXc SSUc SSUPc SSYT",
      "c SSYXc SSYc SSYPc SSYRXc SSYRc ZHATc ZHAXc ZHAc ZHAPc ZHUOXc ZHUOc ZHUOPc ZHOTc ZHOXc ZHO",
      "c ZHOPc ZHETc ZHEXc ZHEc ZHEPc ZHUTc ZHUXc ZHUc ZHUPc ZHURXc ZHURc ZHYTc ZHYXc ZHYc ZHYP",
      "c ZHYRXc ZHYRc CHATc CHAXc CHAc CHAPc CHUOTc CHUOXc CHUOc CHUOPc CHOTc CHOXc CHOc CHOP",
      "c CHETc CHEXc CHEc CHEPc CHUXc CHUc CHUPc CHURXc CHURc CHYTc CHYXc CHYc CHYPc CHYRXc CHYR",
      "c RRAXc RRAc RRUOXc RRUOc RROTc RROXc RROc RROPc RRETc RREXc RREc RREPc RRUTc RRUXc RRU",
      "c RRUPc RRURXc RRURc RRYTc RRYXc RRYc RRYPc RRYRXc RRYRc NRATc NRAXc NRAc NRAPc NROXc NRO",
      "c NROPc NRETc NREXc NREc NREPc NRUTc NRUXc NRUc NRUPc NRURXc NRURc NRYTc NRYXc NRYc NRYP",
      "c NRYRXc NRYRc SHATc SHAXc SHAc SHAPc SHUOXc SHUOc SHUOPc SHOTc SHOXc SHOc SHOPc SHETc SHEX",
      "c SHEc SHEPc SHUTc SHUXc SHUc SHUPc SHURXc SHURc SHYTc SHYXc SHYc SHYPc SHYRXc SHYRc RAT",
      "c RAXc RAc RAPc RUOXc RUOc RUOPc ROTc ROXc ROc ROPc REXc REc REPc RUTc RUXc RUc RUPc RURX",
      "c RURc RYTc RYXc RYc RYPc RYRXc RYRc JITc JIXc JIc JIPc JIETc JIEXc JIEc JIEPc JUOTc JUOX",
      "c JUOc JUOPc JOTc JOXc JOc JOPc JUTc JUXc JUc JUPc JURXc JURc JYTc JYXc JYc JYPc JYRXc JYR",
      "c QITc QIXc QIc QIPc QIETc QIEXc QIEc QIEPc QUOTc QUOXc QUOc QUOPc QOTc QOXc QOc QOPc QUT",
      "c QUXc QUc QUPc QURXc QURc QYTc QYXc QYc QYPc QYRXc QYRc JJITc JJIXc JJIc JJIPc JJIET",
      "c JJIEXc JJIEc JJIEPc JJUOXc JJUOc JJUOPc JJOTc JJOXc JJOc JJOPc JJUTc JJUXc JJUc JJUP",
      "c JJURXc JJURc JJYTc JJYXc JJYc JJYPc NJITc NJIXc NJIc NJIPc NJIETc NJIEXc NJIEc NJIEP",
      "c NJUOXc NJUOc NJOTc NJOXc NJOc NJOPc NJUXc NJUc NJUPc NJURXc NJURc NJYTc NJYXc NJYc NJYP",
      "c NJYRXc NJYRc NYITc NYIXc NYIc NYIPc NYIETc NYIEXc NYIEc NYIEPc NYUOXc NYUOc NYUOPc NYOT",
      "c NYOXc NYOc NYOPc NYUTc NYUXc NYUc NYUPc XITc XIXc XIc XIPc XIETc XIEXc XIEc XIEPc XUOX",
      "c XUOc XOTc XOXc XOc XOPc XYTc XYXc XYc XYPc XYRXc XYRc YITc YIXc YIc YIPc YIETc YIEXc YIE",
      "c YIEPc YUOTc YUOXc YUOc YUOPc YOTc YOXc YOc YOPc YUTc YUXc YUc YUPc YURXc YURc YYTc YYX",
      "c YYc YYPc YYRXc YYR"]⟩,
    ⟨0xA490, ["aYI RADICAL QOTc LIc KITc NYIPc CYPc SSIc GGOPc GEPc MIc HXITc LYRc BBUTc MOPc YO",
      "c PUTc HXUOc TATc GAc ZUPc CYTc DDURc BURc GGUOc NYOPc TUc OPc JJUTc ZOTc PYTc HMOc YIT",
      "c VURc SHYc VEPc ZAc JOc NZUPc JJYc GOTc JJIEc WOc DUc SHURc LIEc CYc CUOPc CIPc HXOPc SHAT",
      "c ZURc SHOPc CHEc ZZIETc NBIEc KE"]⟩,
    ⟨0xA4D0, ["aLISU LETTER BAc PAc PHAc DAc TAc THAc GAc KAc KHAc JAc CAc CHAc DZAc TSAc TSHAc MA",
      "c NAc LAc SAc ZHAc ZAc NGAc HAc XAc HHAc FAc WAc SHAc YAc GHAc Ac AEc Ec EUc Ic Oc Uc UE",
      "c UHc OEc TONE MYA TId NA POd MYA CYAe BOe NAe JEUb PUNCTUATION COMMAc FULL STOP",
      "aVAI SYLLABLE EEc EENc HEEc WEEc WEENc PEEc BHEEc BEEc MBEEc KPEEc MGBEEc GBEEc FEEc VEE",
      "c TEEc THEEc DHEEc DHHEEc LEEc REEc DEEc NDEEc SEEc SHEEc ZEEc ZHEEc CEEc JEEc NJEEc YEE",
      "c KEEc NGGEEc GEEc MEEc NEEc NYEEc Ic INc HIc HINc WIc WINc PIc BHIc BIc MBIc KPIc MGBI",
      "c GBIc FIc VIc TIc THIc DHIc DHHIc LIc RIc DIc NDIc SIc SHIc ZIc ZHIc CIc JIc NJIc YIc KI",
      "c NGGIc GIc MIc NIc NYIc Ac ANc NGANc HAc HANc WAc WANc PAc BHAc BAc MBAc KPAc KPANc MGBA",
      "c GBAc FAc VAc TAc THAc DHAc DHHAc LAc RAc DAc NDAc SAc SHAc ZAc ZHAc CAc JAc NJAc YAc KA",
      "c KANc NGGAc GAc MAc NAc NYAc OOc OONc HOOc WOOc WOONc POOc BHOOc BOOc MBOOc KPOOc MGBOO",
      "c GBOOc FOOc VOOc TOOc THOOc DHOOc DHHOOc LOOc ROOc DOOc NDOOc SOOc SHOOc ZOOc ZHOOc COO",
      "c JOOc NJOOc YOOc KOOc NGGOOc GOOc MOOc NOOc NYOOc Uc UNc HUc HUNc WUc WUNc PUc BHUc BU",
      "c MBUc KPUc MGBUc GBUc FUc VUc TUc THUc DHUc DHHUc LUc RUc DUc NDUc SUc SHUc ZUc ZHUc CU",
      "c JUc NJUc YUc KUc NGGUc GUc MUc NUc NYUc Oc ONc NGONc HOc HONc WOc WONc POc BHOc BOc MBO",
      "c KPOc MGBOc GBOc GBONc FOc VOc TOc THOc DHOc DHHOc LOc ROc DOc NDOc SOc SHOc ZOc ZHOc CO",
      "c JOc NJOc YOc KOc NGGOc GOc MOc NOc NYOc Ec ENc NGENc HEc HENc WEc WENc PEc BHEc BEc MBE",
      "c KPEc KPENc MGBEc GBEc GBENc FEc VEc TEc THEc DHEc DHHEc LEc REc DEc NDEc SEc SHEc ZEc ZHE",
      "c CEc JEc NJEc YEc KEc NGGEc NGGENc GEc GENc MEc NEc NYEc NGc LENGTHENERb COMMAb FULL STOP",
      "b QUESTION MARKb SYLLABLE NDOLE FAd KAd SOOb SYMBOL FEENGc KEENGc TINGc NIIc BANGc FAAc TAA",
      "c DANGc DOONGc KUNGc TONGc DO-Oc JONGb DIGIT ZEROc ONEc TWOc THREEc FOURc FIVEc SIXc SEVEN",
      "c EIGHTc NINEb SYLLABLE NDOLE MAd DO"]⟩,
    ⟨0xA640, ["aCYRILLIC CAPITAL LETTER ZEMLYAb SMALL LETTER ZEMLYAb CAPITAL LETTER DZELO",
      "b SMALL LETTER DZELOb CAPITAL LETTER REVERSED DZEb SMALL LETTER REVERSED DZE",
      "b CAPITAL LETTER IOTAb SMALL LETTER IOTAb CAPITAL LETTER DJERVb SMALL LETTER DJERV",
      "b CAPITAL LETTER MONOGRAPH UKb SMALL LETTER MONOGRAPH UKb CAPITAL LETTER BROAD OMEGA",
      "b SMALL LETTER BROAD OMEGAb CAPITAL LETTER NEUTRAL YERb SMALL LETTER NEUTRAL YER",
      "b CAPITAL LETTER YERU WITH BACK YERb SMALL LETTER YERU WITH BACK YER",
      "b CAPITAL LETTER IOTIFIED YATb SMALL LETTER IOTIFIED YATb CAPITAL LETTER REVERSED YU",
      "b SMALL LETTER REVERSED YUb CAPITAL LETTER IOTIFIED Ab SMALL LETTER IOTIFIED A",
      "b CAPITAL LETTER CLOSED LITTLE YUSb SMALL LETTER CLOSED LITTLE YUS",
      "b CAPITAL LETTER BLENDED YUSb SMALL LETTER BLENDED YUS",
      "b CAPITAL LETTER IOTIFIED CLOSED LITTLE YUSb SMALL LETTER IOTIFIED CLOSED LITTLE YUS",
      "b CAPITAL LETTER YNb SMALL LETTER YNb CAPITAL LETTER REVERSED TSE",
      "b SMALL LETTER REVERSED TSEb CAPITAL LETTER SOFT DEb SMALL LETTER SOFT DE",
      "b CAPITAL LETTER SOFT ELb SMALL LETTER SOFT ELb CAPITAL LETTER SOFT EM",
      "b SMALL LETTER SOFT EMb CAPITAL LETTER MONOCULAR Ob SMALL LETTER MONOCULAR O",
      "b CAPITAL LETTER BINOCULAR Ob SMALL LETTER BINOCULAR Ob CAPITAL LETTER DOUBLE MONOCULAR O",
      "b SMALL LETTER DOUBLE MONOCULAR Ob LETTER MULTIOCULAR OaCOMBINING CYRILLIC VZMET",
      "c TEN MILLIONS SIGNc HUNDRED MILLIONS SIGNc THOUSAND MILLIONS SIGNaSLAVONIC ASTERISK",
      "aCOMBINING CYRILLIC LETTER UKRAINIAN IEd Id YId Ud HARD SIGNd YERUd SOFT SIGNd OMEGA",
      "c KAVYKAc PAYEROKaCYRILLIC KAVYKAb PAYEROKb CAPITAL LETTER DWEb SMALL LETTER DWE",
      "b CAPITAL LETTER DZWEb SMALL LETTER DZWEb CAPITAL LETTER ZHWEb SMALL LETTER ZHWE",
      "b CAPITAL LETTER CCHEb SMALL LETTER CCHEb CAPITAL LETTER DZZEb SMALL LETTER DZZE",
      "b CAPITAL LETTER TE WITH MIDDLE HOOKb SMALL LETTER TE WITH MIDDLE HOOKb CAPITAL LETTER TWE",
      "b SMALL LETTER TWEb CAPITAL LETTER TSWEb SMALL LETTER TSWEb CAPITAL LETTER TSSE",
      "b SMALL LETTER TSSEb CAPITAL LETTER TCHEb SMALL LETTER TCHEb CAPITAL LETTER HWE",
      "b SMALL LETTER HWEb CAPITAL LETTER SHWEb SMALL LETTER SHWEb CAPITAL LETTER DOUBLE O",
      "b SMALL LETTER DOUBLE Ob CAPITAL LETTER CROSSED Ob SMALL LETTER CROSSED O",
      "aMODIFIER LETTER CYRILLIC HARD SIGNd SOFT SIGNaCOMBINING CYRILLIC LETTER EFd IOTIFIED E",
      "aBAMUM LETTER Ac KAc Uc KUc EEc REEc TAEc Oc NYIc Ic LAc PAc RIIc RIEEc LEEEEc MEEEEc TAA",
      "c NDAAc NJAEMc Mc SUUc MUc SHIIc SIc SHEUXc SEUXc KYEEc KETc NUAEc NUc NJUAEc YOQc SHUc YUQ",
      "c YAc NSHAc KEUXc PEUXc NJEEc NTEEc PUEc WUEc PEEc FEEc RUc LUc MIc NIc REUXc RAEc KEN",
      "c NGKWAENc NGGAc NGAc SHOc PUAEc FUc FOMc WAc NAc LIc PIc LOQc KOc MBENc RENc MENc MAc TI",
      "c KIc MOc MBAAc TETc KPAc TENc NTUUc SAMBAc FAAMAEc KOVUUc KOGHOMb COMBINING MARK KOQNDON",
      "d TUKWENTISb NJAEMLIb FULL STOPb COLONb COMMAb SEMICOLONb QUESTION MARK"]⟩,
    ⟨0xA700, ["aMODIFIER LETTER CHINESE TONE YIN PINGe YANG PINGe YIN SHANGe YANG SHANGe YIN QU",
      "e YANG QUe YIN RUe YANG RUc EXTRA-HIGH DOTTED TONE BARc HIGH DOTTED TONE BAR",
      "c MID DOTTED TONE BARc LOW DOTTED TONE BARc EXTRA-LOW DOTTED TONE BAR",
      "d-HIGH DOTTED LEFT-STEM TONE BARc HIGH DOTTED LEFT-STEM TONE BAR",
      "c MID DOTTED LEFT-STEM TONE BARc LOW DOTTED LEFT-STEM TONE BAR",
      "c EXTRA-LOW DOTTED LEFT-STEM TONE BARd-HIGH LEFT-STEM TONE BARc HIGH LEFT-STEM TONE BAR",
      "c MID LEFT-STEM TONE BARc LOW LEFT-STEM TONE BARc EXTRA-LOW LEFT-STEM TONE BAR",
      "c DOT VERTICAL BARd SLASHd HORIZONTAL BARc LOWER RIGHT CORNER ANGLEc RAISED UP ARROW",
      "d DOWN ARROWd EXCLAMATION MARKd INVERTED EXCLAMATION MARKc LOW INVERTED EXCLAMATION MARK",
      "c STRESS AND HIGH TONEe LOW TONEaLATIN CAPITAL LETTER EGYPTOLOGICAL ALEF",
      "b SMALL LETTER EGYPTOLOGICAL ALEFb CAPITAL LETTER EGYPTOLOGICAL AIN",
      "b SMALL LETTER EGYPTOLOGICAL AINb CAPITAL LETTER HENGb SMALL LETTER HENGb CAPITAL LETTER TZ",
      "b SMALL LETTER TZb CAPITAL LETTER TRESILLOb SMALL LETTER TRESILLOb CAPITAL LETTER CUATRILLO",
      "b SMALL LETTER CUATRILLOb CAPITAL LETTER CUATRILLO WITH COMMA",
      "b SMALL LETTER CUATRILLO WITH COMMAb LETTER SMALL CAPITAL Fe Sb CAPITAL LETTER AA",
      "b SMALL LETTER AAb CAPITAL LETTER AOb SMALL LETTER AOb CAPITAL LETTER AUb SMALL LETTER AU",
      "b CAPITAL LETTER AVb SMALL LETTER AVb CAPITAL LETTER AV WITH HORIZONTAL BAR",
      "b SMALL LETTER AV WITH HORIZONTAL BARb CAPITAL LETTER AYb SMALL LETTER AY",
      "b CAPITAL LETTER REVERSED C WITH DOTb SMALL LETTER REVERSED C WITH DOT",
      "b CAPITAL LETTER K WITH STROKEb SMALL LETTER K WITH STROKE",
      "b CAPITAL LETTER K WITH DIAGONAL STROKEb SMALL LETTER K WITH DIAGONAL STROKE",
      "b CAPITAL LETTER K WITH STROKE AND DIAGONAL STROKE",
      "b SMALL LETTER K WITH STROKE AND DIAGONAL STROKEb CAPITAL LETTER BROKEN L",
      "b SMALL LETTER BROKEN Lb CAPITAL LETTER L WITH HIGH STROKEb SMALL LETTER L WITH HIGH STROKE",
      "b CAPITAL LETTER O WITH LONG STROKE OVERLAYb SMALL LETTER O WITH LONG STROKE OVERLAY",
      "b CAPITAL LETTER O WITH LOOPb SMALL LETTER O WITH LOOPb CAPITAL LETTER OOb SMALL LETTER OO",
      "b CAPITAL LETTER P WITH STROKE THROUGH DESCENDER",
      "b SMALL LETTER P WITH STROKE THROUGH DESCENDERb CAPITAL LETTER P WITH FLOURISH",
      "b SMALL LETTER P WITH FLOURISHb CAPITAL LETTER P WITH SQUIRREL TAIL",
      "b SMALL LETTER P WITH SQUIRREL TAILb CAPITAL LETTER Q WITH STROKE THROUGH DESCENDER",
      "b SMALL LETTER Q WITH STROKE THROUGH DESCENDERb CAPITAL LETTER Q WITH DIAGONAL STROKE",
      "b SMALL LETTER Q WITH DIAGONAL STROKEb CAPITAL LETTER R ROTUNDAb SMALL LETTER R ROTUNDA",
      "b CAPITAL LETTER RUM ROTUNDAb SMALL LETTER RUM ROTUNDA",
      "b CAPITAL LETTER V WITH DIAGONAL STROKEb SMALL LETTER V WITH DIAGONAL STROKE",
      "b CAPITAL LETTER VYb SMALL LETTER VYb CAPITAL LETTER VISIGOTHIC Z",
      "b SMALL LETTER VISIGOTHIC Zb CAPITAL LETTER THORN WITH STROKE",
      "b SMALL LETTER THORN WITH STROKEb CAPITAL LETTER THORN WITH STROKE THROUGH DESCENDER",
      "b SMALL LETTER THORN WITH STROKE THROUGH DESCENDERb CAPITAL LETTER VENDb SMALL LETTER VEND",
      "b CAPITAL LETTER ETb SMALL LETTER ETb CAPITAL LETTER ISb SMALL LETTER IS",
      "b CAPITAL LETTER CONb SMALL LETTER CONaMODIFIER LETTER USaLATIN SMALL LETTER DUMd LUMd MUM",
      "d NUMd RUMb LETTER SMALL CAPITAL RUMb SMALL LETTER TUMd UMb CAPITAL LETTER INSULAR D",
      "b SMALL LETTER INSULAR Db CAPITAL LETTER INSULAR Fb SMALL LETTER INSULAR F",
      "b CAPITAL LETTER INSULAR Gd TURNED INSULAR Gb SMALL LETTER TURNED INSULAR G",
      "b CAPITAL LETTER TURNED Lb SMALL LETTER TURNED Lb CAPITAL LETTER INSULAR R",
      "b SMALL LETTER INSULAR Rb CAPITAL LETTER INSULAR Sb SMALL LETTER INSULAR S",
      "b CAPITAL LETTER INSULAR Tb SMALL LETTER INSULAR TaMODIFIER LETTER LOW CIRCUMFLEX ACCENT",
      "c COLONc SHORT EQUALS SIGNaLATIN CAPITAL LETTER SALTILLOb SMALL LETTER SALTILLO",
      "b CAPITAL LETTER TURNED Hb SMALL LETTER L WITH RETROFLEX HOOK AND BELT",
      "b LETTER SINOLOGICAL DOTb CAPITAL LETTER N WITH DESCENDERb SMALL LETTER N WITH DESCENDER",
      "b CAPITAL LETTER C WITH BARb SMALL LETTER C WITH BARf PALATAL HOOKd H WITH PALATAL HOOK",
      "b CAPITAL LETTER B WITH FLOURISHb SMALL LETTER B WITH FLOURISH",
      "b CAPITAL LETTER F WITH STROKEb SMALL LETTER F WITH STROKEb CAPITAL LETTER VOLAPUK AE",
      "b SMALL LETTER VOLAPUK AEb CAPITAL LETTER VOLAPUK OEb SMALL LETTER VOLAPUK OE",
      "b CAPITAL LETTER VOLAPUK UEb SMALL LETTER VOLAPUK UEb CAPITAL LETTER G WITH OBLIQUE STROKE",
      "b SMALL LETTER G WITH OBLIQUE STROKEb CAPITAL LETTER K WITH OBLIQUE STROKE",
      "b SMALL LETTER K WITH OBLIQUE STROKEb CAPITAL LETTER N WITH OBLIQUE STROKE",
      "b SMALL LETTER N WITH OBLIQUE STROKEb CAPITAL LETTER R WITH OBLIQUE STROKE",
      "b SMALL LETTER R WITH OBLIQUE STROKEb CAPITAL LETTER S WITH OBLIQUE STROKE",
      "b SMALL LETTER S WITH OBLIQUE STROKEb CAPITAL LETTER H WITH HOOKd REVERSED OPEN Ed SCRIPT G",
      "d L WITH BELTd SMALL CAPITAL Ib LETTER SMALL CAPITAL Qb CAPITAL LETTER TURNED Ke T",
      "d J WITH CROSSED-TAILd CHId BETAb SMALL LETTER BETAb CAPITAL LETTER OMEGA",
      "b SMALL LETTER OMEGAb CAPITAL LETTER U WITH STROKEb SMALL LETTER U WITH STROKE",
      "b CAPITAL LETTER GLOTTAL Ab SMALL LETTER GLOTTAL Ab CAPITAL LETTER GLOTTAL I",
      "b SMALL LETTER GLOTTAL Ib CAPITAL LETTER GLOTTAL Ub SMALL LETTER GLOTTAL U",
      "b CAPITAL LETTER OLD POLISH Ob SMALL LETTER OLD POLISH Ob CAPITAL LETTER ANGLICANA W",
      "b SMALL LETTER ANGLICANA Wb CAPITAL LETTER C WITH PALATAL HOOKd S WITH HOOK",
      "d Z WITH PALATAL HOOKd D WITH SHORT STROKE OVERLAY",
      "b SMALL LETTER D WITH SHORT STROKE OVERLAYb CAPITAL LETTER S WITH SHORT STROKE OVERLAY",
      "b SMALL LETTER S WITH SHORT STROKE OVERLAY"]⟩,
    ⟨0xA7D0, ["aLATIN CAPITAL LETTER CLOSED INSULAR Gb SMALL LETTER CLOSED INSULAR G"]⟩,
    ⟨0xA7D3, ["aLATIN SMALL LETTER DOUBLE THORN"]⟩,
    ⟨0xA7D5, ["aLATIN SMALL LETTER DOUBLE WYNNb CAPITAL LETTER MIDDLE SCOTS S",
      "b SMALL LETTER MIDDLE SCOTS Sb CAPITAL LETTER SIGMOID Sb SMALL LETTER SIGMOID S"]⟩,
    ⟨0xA7F2, ["aMODIFIER LETTER CAPITAL Cd Fd QaLATIN CAPITAL LETTER REVERSED HALF H",
      "b SMALL LETTER REVERSED HALF Hb EPIGRAPHIC LETTER SIDEWAYS I",
      "aMODIFIER LETTER CAPITAL H WITH STROKEc SMALL LIGATURE OE",
      "aLATIN LETTER SMALL CAPITAL TURNED Mb EPIGRAPHIC LETTER REVERSED Fe Pd INVERTED Md I LONGA",
      "d ARCHAIC MaSYLOTI NAGRI LETTER Ad Ic SIGN DVISVARAc LETTER Ud Ed Oc SIGN HASANTA",
      "c LETTER KOd KHOd GOd GHOc SIGN ANUSVARAc LETTER COd CHOd JOd JHOd TTOd TTHOd DDOd DDHOd TO",
      "d THOd DOd DHOd NOd POd PHOd BOd BHOd MOd ROd LOd RROd SOd HOc VOWEL SIGN Ae Ie Ue Ee OO",
      "c POETRY MARK-1e-2e-3e-4c SIGN ALTERNATE HASANTA"]⟩,
    ⟨0xA830, ["aNORTH INDIC FRACTION ONE QUARTERe HALFd THREE QUARTERSd ONE SIXTEENTHe EIGHTH",
      "d THREE SIXTEENTHSc QUARTER MARKc PLACEHOLDER MARKc RUPEE MARKc QUANTITY MARK"]⟩,
    ⟨0xA840, ["aPHAGS-PA LETTER KAd KHAd GAd NGAd CAd CHAd JAd NYAd TAd THAd DAd NAd PAd PHAd BA",
      "d MAd TSAd TSHAd DZAd WAd ZHAd ZAd SMALL Ad YAd RAd LAd SHAd SAd HAd Ad Id Ud Ed Od QAd XA",
      "d FAd GGAd EEc SUBJOINED LETTER WAe YAc LETTER TTAd TTHAd DDAd NNAd ALTERNATE YA",
      "d VOICELESS SHAd VOICED HAd ASPIRATED FAc SUBJOINED LETTER RAc SUPERFIXED LETTER RA",
      "c LETTER CANDRABINDUc SINGLE HEAD MARKc DOUBLE HEAD MARKc MARK SHADd DOUBLE SHAD"]⟩,
    ⟨0xA880, ["aSAURASHTRA SIGN ANUSVARAc VISARGAb LETTER Ac AAc Ic IIc Uc UUc VOCALIC Rd RRd L",
      "d LLc Ec EEc AIc Oc OOc AUc KAc KHAc GAc GHAc NGAc CAc CHAc JAc JHAc NYAc TTAc TTHAc DDA",
      "c DDHAc NNAc TAc THAc DAc DHAc NAc PAc PHAc BAc BHAc MAc YAc RAc LAc VAc SHAc SSAc SAc HA",
      "c LLAb CONSONANT SIGN HAARUb VOWEL SIGN AAd Id IId Ud UUd VOCALIC Re RRe Le LLd Ed EEd AI",
      "d Od OOd AUb SIGN VIRAMAc CANDRABINDU"]⟩,
    ⟨0xA8CE, ["aSAURASHTRA DANDAb DOUBLE DANDAb DIGIT ZEROc ONEc TWOc THREEc FOURc FIVEc SIX",
      "c SEVENc EIGHTc NINE"]⟩,
    ⟨0xA8E0, ["aCOMBINING DEVANAGARI DIGIT ZEROd ONEd TWOd THREEd FOURd FIVEd SIXd SEVENd EIGHT",
      "d NINEc LETTER Ad Ud KAd NAd PAd RAd VIc SIGN AVAGRAHAaDEVANAGARI SIGN SPACING CANDRABINDU",
      "c CANDRABINDU VIRAMAc DOUBLE CANDRABINDU VIRAMAc CANDRABINDU TWOd THREEd AVAGRAHAc PUSHPIKA",
      "b GAP FILLERb CARETb HEADSTROKEb SIGN SIDDHAMb JAIN OMb LETTER AYb VOWEL SIGN AY",
      "aKAYAH LI DIGIT ZEROd ONEd TWOd THREEd FOURd FIVEd SIXd SEVENd EIGHTd NINEc LETTER KAd KHA",
      "d GAd NGAd SAd SHAd ZAd NYAd TAd HTAd NAd PAd PHAd MAd DAd BAd RAd YAd LAd WAd THAd HAd VA",
      "d CAd Ad OEd Id OOc VOWEL UEd Ed Ud EEd Oc TONE PLOPHUd CALYAe PLOPHUc SIGN CWId SHYA",
      "aREJANG LETTER KAc GAc NGAc TAc DAc NAc PAc BAc MAc CAc JAc NYAc SAc RAc LAc YAc WAc HA",
      "c MBAc NGGAc NDAc NYJAc Ab VOWEL SIGN Id Ud Ed AId Od AUd EUd EAb CONSONANT SIGN NGd Nd R",
      "d Hb VIRAMA"]⟩,
    ⟨0xA95F, ["aREJANG SECTION MARKaHANGUL CHOSEONG TIKEUT-MIEUMd-PIEUPd-SIOSd-CIEUCc RIEUL-KIYEOK",
      "d-SSANGKIYEOKd-TIKEUTd-SSANGTIKEUTd-MIEUMd-PIEUPd-SSANGPIEUPd-KAPYEOUNPIEUPd-SIOSd-CIEUC",
      "d-KHIEUKHc MIEUM-KIYEOKd-TIKEUTd-SIOSc PIEUP-SIOS-THIEUTHd-KHIEUKHd-HIEUHc SSANGSIOS-PIEUP",
      "c IEUNG-RIEULd-HIEUHc SSANGCIEUC-HIEUHc SSANGTHIEUTHc PHIEUPH-HIEUHc HIEUH-SIOS",
      "c SSANGYEORINHIEUH"]⟩,
    ⟨0xA980, ["aJAVANESE SIGN PANYANGGAc CECAKc LAYARc WIGNYANb LETTER Ac I KAWIdc IIc Uc PA CEREK",
      "c NGA LELETe RASWADIc Ec AIc Oc KAd SASAKd MURDAc GAd MURDAc NGAc CAd MURDAc JAc NYA MURDA",
      "c JA MAHAPRANAc NYAc TTAd MAHAPRANAc DDAd MAHAPRANAc NA MURDAc TAd MURDAc DAd MAHAPRANAc NA",
      "c PAd MURDAc BAd MURDAc MAc YAc RAd AGUNGc LAc WAc SA MURDAd MAHAPRANAdc HA",
      "b SIGN CECAK TELUb VOWEL SIGN TARUNGd TOLONGd WULUe MELIKd SUKUe MENDUTd TALINGd DIRGA MURE",
      "d PEPETb CONSONANT SIGN KERETd PENGKALd CAKRAb PANGKONb LEFT RERENGGANb RIGHT RERENGGAN",
      "b PADA ANDAPc MADYAc LUHURc WINDUc PANGKATc LINGSAc LUNGSIc ADEGd ADEGc PISELEH",
      "b TURNED PADA PISELEH"]⟩,
    ⟨0xA9CF, ["aJAVANESE PANGRANGKEPb DIGIT ZEROc ONEc TWOc THREEc FOURc FIVEc SIXc SEVENc EIGHT",
      "c NINE"]⟩,
    ⟨0xA9DE, ["aJAVANESE PADA TIRTA TUMETESc ISEN-ISENaMYANMAR LETTER SHAN GHAd CHAd JHAd NNAd BHA",
      "b SIGN SHAN SAWb MODIFIER LETTER SHAN REDUPLICATIONb LETTER TAI LAING NYAe FAe GAe GHAe JA",
      "e JHAe DDAe DDHAe NNAb TAI LAING DIGIT ZEROe ONEe TWOe THREEe FOURe FIVEe SIXe SEVENe EIGHT",
      "e NINEb LETTER TAI LAING LLAe DAe DHAe BAe BHA"]⟩,
    ⟨0xAA00, ["aCHAM LETTER Ac Ic Uc Ec AIc Oc KAc KHAc GAc GHAc NGUEc NGAc CHAc CHHAc JAc JHA",
      "c NHUEc NHAc NHJAc TAc THAc DAc DHAc NUEc NAc DDAc PAc PPAc PHAc BAc BHAc MUEc MAc BBAc YA",
      "c RAc LAc VAc SSAc SAc HAb VOWEL SIGN AAd Id IId EId Ud OEd Od AId AUd UE",
      "b CONSONANT SIGN YAd RAd LAd WA"]⟩,
    ⟨0xAA40, ["aCHAM LETTER FINAL Kd Gd NGb CONSONANT SIGN FINAL NGb LETTER FINAL CHd Td Nd Pd Y",
      "d Rd Ld SSb CONSONANT SIGN FINAL Me H"]⟩,
    ⟨0xAA50, ["aCHAM DIGIT ZEROc ONEc TWOc THREEc FOURc FIVEc SIXc SEVENc EIGHTc NINE"]⟩,
    ⟨0xAA5C, ["aCHAM PUNCTUATION SPIRALc DANDAc DOUBLE DANDAc TRIPLE DANDA",
      "aMYANMAR LETTER KHAMTI GAd CAd CHAd JAd JHAd NYAd TTAd TTHAd DDAd DDHAd DHAd NAd SAd HA",
      "d HHAd FAb MODIFIER LETTER KHAMTI REDUPLICATIONb LETTER KHAMTI XAd ZAd RA",
      "b LOGOGRAM KHAMTI OAYd QNd HMb SYMBOL AITON EXCLAMATIONd ONEd TWOb LETTER AITON RA",
      "b SIGN PAO KAREN TONEc TAI LAING TONE-2f-5b LETTER SHWE PALAUNG CHAe SHA",
      "aTAI VIET LETTER LOW KOd HIGH KOd LOW KHOd HIGH KHOd LOW KHHOd HIGH KHHOd LOW GOd HIGH GO",
      "d LOW NGOd HIGH NGOd LOW COd HIGH COd LOW CHOd HIGH CHOd LOW SOd HIGH SOd LOW NYOd HIGH NYO",
      "d LOW DOd HIGH DOd LOW TOd HIGH TOd LOW THOd HIGH THOd LOW NOd HIGH NOd LOW BOd HIGH BO",
      "d LOW POd HIGH POd LOW PHOd HIGH PHOd LOW FOd HIGH FOd LOW MOd HIGH MOd LOW YOd HIGH YO",
      "d LOW ROd HIGH ROd LOW LOd HIGH LOd LOW VOd HIGH VOd LOW HOd HIGH HOd LOW Od HIGH O",
      "c MAI KANGc VOWEL AAd Id UEd Ud Ed Oc MAI KHITc VOWEL IAd UEAd UAd AUEd AYd ANd AM",
      "c TONE MAI EKe NUENGe THOe SONG"]⟩,
    ⟨0xAADB, ["aTAI VIET SYMBOL KONd NUENGd SAMd HO HOId KOI KOIaMEETEI MAYEK LETTER Ed Od CHA",
      "d NYAd TTAd TTHAd DDAd DDHAd NNAd SHAd SSAc VOWEL SIGN IIe UUe AAIe AUe AAUc CHEIKHAN",
      "c AHANG KHUDAMc ANJIc SYLLABLE REPETITION MARKc WORD REPETITION MARKc VOWEL SIGN VISARGA",
      "c VIRAMA"]⟩,
    ⟨0xAB01, ["aETHIOPIC SYLLABLE TTHUc TTHIc TTHAAc TTHEEc TTHEc TTHO"]⟩,
    ⟨0xAB09, ["aETHIOPIC SYLLABLE DDHUc DDHIc DDHAAc DDHEEc DDHEc DDHO"]⟩,
    ⟨0xAB11, ["aETHIOPIC SYLLABLE DZUc DZIc DZAAc DZEEc DZEc DZO"]⟩,
    ⟨0xAB20, ["aETHIOPIC SYLLABLE CCHHAc CCHHUc CCHHIc CCHHAAc CCHHEEc CCHHEc CCHHO"]⟩,
    ⟨0xAB28, ["aETHIOPIC SYLLABLE BBAc BBUc BBIc BBAAc BBEEc BBEc BBO"]⟩,
    ⟨0xAB30, ["aLATIN SMALL LETTER BARRED ALPHAd A REVERSED-SCHWAd BLACKLETTER Ed BARRED E",
      "d E WITH FLOURISHd LENIS Fd SCRIPT G WITH CROSSED-TAILd L WITH INVERTED LAZY S",
      "f DOUBLE MIDDLE TILDEf MIDDLE RINGd M WITH CROSSED-TAILd N WITH CROSSED-TAIL",
      "d ENG WITH CROSSED-TAILd BLACKLETTER Of WITH STROKEd OPEN O WITH STROKEd INVERTED OE",
      "d TURNED OE WITH STROKEg HORIZONTAL STROKEe O OPEN-Oh WITH STROKEd STIRRUP R",
      "b LETTER SMALL CAPITAL R WITH RIGHT LEGb SMALL LETTER R WITHOUT HANDLEd DOUBLE R",
      "d R WITH CROSSED-TAILd DOUBLE R WITH CROSSED-TAILd SCRIPT Rf WITH RINGd BASELINE ESH",
      "d U WITH SHORT RIGHT LEGe BAR WITH SHORT RIGHT LEGd UId TURNED UId U WITH LEFT HOOKd CHI",
      "e WITH LOW RIGHT RINGg LEFT SERIFd X WITH LOW RIGHT RINGf LONG LEFT LEGi AND LOW RIGHT RING",
      "i WITH SERIFd Y WITH SHORT RIGHT LEGaMODIFIER BREVE WITH INVERTED BREVEb LETTER SMALL HENG",
      "d L WITH INVERTED LAZY Sf MIDDLE TILDEd U WITH LEFT HOOKaLATIN SMALL LETTER SAKHA YAT",
      "d IOTIFIED Ed OPEN OEd UOd INVERTED ALPHAaGREEK LETTER SMALL CAPITAL OMEGA",
      "aLATIN SMALL LETTER DZ DIGRAPH WITH RETROFLEX HOOKd TS DIGRAPH WITH RETROFLEX HOOK",
      "d TURNED R WITH MIDDLE TILDEaMODIFIER LETTER SMALL TURNED Wc LEFT TACKc RIGHT TACK"]⟩,
    ⟨0xAB70, ["aCHEROKEE SMALL LETTER Ad Ed Id Od Ud Vd GAd KAd GEd GId GOd GUd GVd HAd HEd HId HO",
      "d HUd HVd LAd LEd LId LOd LUd LVd MAd MEd MId MOd MUd NAd HNAd NAHd NEd NId NOd NUd NVd QUA",
      "d QUEd QUId QUOd QUUd QUVd SAd Sd SEd SId SOd SUd SVd DAd TAd DEd TEd DId TId DOd DUd DV",
      "d DLAd TLAd TLEd TLId TLOd TLUd TLVd TSAd TSEd TSId TSOd TSUd TSVd WAd WEd WId WOd WUd WV",
      "d YAaMEETEI MAYEK LETTER KOKd SAMd LAId MITd PAd NAd CHILd TILd KHOUd NGOUd THOUd WAId YANG",
      "d HUKd UNd Id PHAMd ATIYAd GOKd JHAMd RAId BAd JILd DILd GHOUd DHOUd BHAMd KOK LONSUM",
      "d LAI LONSUMd MIT LONSUMd PA LONSUMd NA LONSUMd TIL LONSUMd NGOU LONSUMd I LONSUM",
      "c VOWEL SIGN ONAPe INAPe ANAPe YENAPe SOUNAPe UNAPe CHEINAPe NUNGc CHEIKHEIc LUM IYEK",
      "c APUN IYEK"]⟩,
    ⟨0xABF0, ["aMEETEI MAYEK DIGIT ZEROd ONEd TWOd THREEd FOURd FIVEd SIXd SEVENd EIGHTd NINE"]⟩,
    ⟨0xD7B0, ["aHANGUL JUNGSEONG O-YEOd-O-Ic YO-Ad-AEd-EOc U-YEOd-I-Ic YU-AEd-Oc EU-Ad-EOd-Ed-O",
      "c I-YA-Od-YAEd-YEOd-YEd-O-Id-YOd-YUd-Ic ARAEA-Ad-E"]⟩,
    ⟨0xD7CB, ["aHANGUL JONGSEONG NIEUN-RIEULd-CHIEUCHc SSANGTIKEUTd-PIEUPc TIKEUT-PIEUPd-SIOS",
      "e-KIYEOKd-CIEUCd-CHIEUCHd-THIEUTHc RIEUL-SSANGKIYEOKd-KIYEOK-HIEUHc SSANGRIEUL-KHIEUKH",
      "c RIEUL-MIEUM-HIEUHd-PIEUP-TIKEUTe-PHIEUPHd-YESIEUNGd-YEORINHIEUH-HIEUHc KAPYEOUNRIEUL",
      "c MIEUM-NIEUNd-SSANGNIEUNc SSANGMIEUMc MIEUM-PIEUP-SIOSd-CIEUCc PIEUP-TIKEUTd-RIEUL-PHIEUPH",
      "d-MIEUMc SSANGPIEUPc PIEUP-SIOS-TIKEUTd-CIEUCd-CHIEUCHc SIOS-MIEUMd-KAPYEOUNPIEUP",
      "c SSANGSIOS-KIYEOKd-TIKEUTc SIOS-PANSIOSd-CIEUCd-CHIEUCHd-THIEUTHd-HIEUHc PANSIOS-PIEUP",
      "d-KAPYEOUNPIEUPc YESIEUNG-MIEUMd-HIEUHc CIEUC-PIEUPd-SSANGPIEUPc SSANGCIEUCc PHIEUPH-SIOS",
      "d-THIEUTH"]⟩,
    ⟨0xF900, ["aCJK COMPATIBILITY IDEOGRAPH-F900d-F901d-F902d-F903d-F904d-F905d-F906d-F907d-F908",
      "d-F909d-F90Ad-F90Bd-F90Cd-F90Dd-F90Ed-F90Fd-F910d-F911d-F912d-F913d-F914d-F915d-F916d-F917",
      "d-F918d-F919d-F91Ad-F91Bd-F91Cd-F91Dd-F91Ed-F91Fd-F920d-F921d-F922d-F923d-F924d-F925d-F926",
      "d-F927d-F928d-F929d-F92Ad-F92Bd-F92Cd-F92Dd-F92Ed-F92Fd-F930d-F931d-F932d-F933d-F934d-F935",
      "d-F936d-F937d-F938d-F939d-F93Ad-F93Bd-F93Cd-F93Dd-F93Ed-F93Fd-F940d-F941d-F942d-F943d-F944",
      "d-F945d-F946d-F947d-F948d-F949d-F94Ad-F94Bd-F94Cd-F94Dd-F94Ed-F94Fd-F950d-F951d-F952d-F953",
      "d-F954d-F955d-F956d-F957d-F958d-F959d-F95Ad-F95Bd-F95Cd-F95Dd-F95Ed-F95Fd-F960d-F961d-F962",
      "d-F963d-F964d-F965d-F966d-F967d-F968d-F969d-F96Ad-F96Bd-F96Cd-F96Dd-F96Ed-F96Fd-F970d-F971",
      "d-F972d-F973d-F974d-F975d-F976d-F977d-F978d-F979d-F97Ad-F97Bd-F97Cd-F97Dd-F97Ed-F97Fd-F980",
      "d-F981d-F982d-F983d-F984d-F985d-F986d-F987d-F988d-F989d-F98Ad-F98Bd-F98Cd-F98Dd-F98Ed-F98F",
      "d-F990d-F991d-F992d-F993d-F994d-F995d-F996d-F997d-F998d-F999d-F99Ad-F99Bd-F99Cd-F99Dd-F99E",
      "d-F99Fd-F9A0d-F9A1d-F9A2d-F9A3d-F9A4d-F9A5d-F9A6d-F9A7d-F9A8d-F9A9d-F9AAd-F9ABd-F9ACd-F9AD",
      "d-F9AEd-F9AFd-F9B0d-F9B1d-F9B2d-F9B3d-F9B4d-F9B5d-F9B6d-F9B7d-F9B8d-F9B9d-F9BAd-F9BBd-F9BC",
      "d-F9BDd-F9BEd-F9BFd-F9C0d-F9C1d-F9C2d-F9C3d-F9C4d-F9C5d-F9C6d-F9C7d-F9C8d-F9C9d-F9CAd-F9CB",
      "d-F9CCd-F9CDd-F9CEd-F9CFd-F9D0d-F9D1d-F9D2d-F9D3d-F9D4d-F9D5d-F9D6d-F9D7d-F9D8d-F9D9d-F9DA",
      "d-F9DBd-F9DCd-F9DDd-F9DEd-F9DFd-F9E0d-F9E1d-F9E2d-F9E3d-F9E4d-F9E5d-F9E6d-F9E7d-F9E8d-F9E9",
      "d-F9EAd-F9EBd-F9ECd-F9EDd-F9EEd-F9EFd-F9F0d-F9F1d-F9F2d-F9F3d-F9F4d-F9F5d-F9F6d-F9F7d-F9F8",
      "d-F9F9d-F9FAd-F9FBd-F9FCd-F9FDd-F9FEd-F9FFd-FA00d-FA01d-FA02d-FA03d-FA04d-FA05d-FA06d-FA07",
      "d-FA08d-FA09d-FA0Ad-FA0Bd-FA0Cd-FA0Dd-FA0Ed-FA0Fd-FA10d-FA11d-FA12d-FA13d-FA14d-FA15d-FA16",
      "d-FA17d-FA18d-FA19d-FA1Ad-FA1Bd-FA1Cd-FA1Dd-FA1Ed-FA1Fd-FA20d-FA21d-FA22d-FA23d-FA24d-FA25",
      "d-FA26d-FA27d-FA28d-FA29d-FA2Ad-FA2Bd-FA2Cd-FA2Dd-FA2Ed-FA2Fd-FA30d-FA31d-FA32d-FA33d-FA34",
      "d-FA35d-FA36d-FA37d-FA38d-FA39d-FA3Ad-FA3Bd-FA3Cd-FA3Dd-FA3Ed-FA3Fd-FA40d-FA41d-FA42d-FA43",
      "d-FA44d-FA45d-FA46d-FA47d-FA48d-FA49d-FA4Ad-FA4Bd-FA4Cd-FA4Dd-FA4Ed-FA4Fd-FA50d-FA51d-FA52",
      "d-FA53d-FA54d-FA55d-FA56d-FA57d-FA58d-FA59d-FA5Ad-FA5Bd-FA5Cd-FA5Dd-FA5Ed-FA5Fd-FA60d-FA61",
      "d-FA62d-FA63d-FA64d-FA65d-FA66d-FA67d-FA68d-FA69d-FA6Ad-FA6Bd-FA6Cd-FA6D"]⟩,
    ⟨0xFA70, ["aCJK COMPATIBILITY IDEOGRAPH-FA70d-FA71d-FA72d-FA73d-FA74d-FA75d-FA76d-FA77d-FA78",
      "d-FA79d-FA7Ad-FA7Bd-FA7Cd-FA7Dd-FA7Ed-FA7Fd-FA80d-FA81d-FA82d-FA83d-FA84d-FA85d-FA86d-FA87",
      "d-FA88d-FA89d-FA8Ad-FA8Bd-FA8Cd-FA8Dd-FA8Ed-FA8Fd-FA90d-FA91d-FA92d-FA93d-FA94d-FA95d-FA96",
      "d-FA97d-FA98d-FA99d-FA9Ad-FA9Bd-FA9Cd-FA9Dd-FA9Ed-FA9Fd-FAA0d-FAA1d-FAA2d-FAA3d-FAA4d-FAA5",
      "d-FAA6d-FAA7d-FAA8d-FAA9d-FAAAd-FAABd-FAACd-FAADd-FAAEd-FAAFd-FAB0d-FAB1d-FAB2d-FAB3d-FAB4",
      "d-FAB5d-FAB6d-FAB7d-FAB8d-FAB9d-FABAd-FABBd-FABCd-FABDd-FABEd-FABFd-FAC0d-FAC1d-FAC2d-FAC3",
      "d-FAC4d-FAC5d-FAC6d-FAC7d-FAC8d-FAC9d-FACAd-FACBd-FACCd-FACDd-FACEd-FACFd-FAD0d-FAD1d-FAD2",
      "d-FAD3d-FAD4d-FAD5d-FAD6d-FAD7d-FAD8d-FAD9"]⟩,
    ⟨0xFB00, ["aLATIN SMALL LIGATURE FFd FId FLd FFId FFLd LONG S Td ST"]⟩,
    ⟨0xFB13, ["aARMENIAN SMALL LIGATURE MEN NOWe ECHe INId VEW NOWd MEN XEH"]⟩,
    ⟨0xFB1D, ["aHEBREW LETTER YOD WITH HIRIQb POINT JUDEO-SPANISH VARIKA",
      "b LIGATURE YIDDISH YOD YOD PATAHb LETTER ALTERNATIVE AYINc WIDE ALEFd DALETd HEd KAFd LAMED",
      "d FINAL MEMd RESHd TAVc ALTERNATIVE PLUS SIGNc SHIN WITH SHIN DOTe SIN DOT",
      "e DAGESH AND SHIN DOTg SIN DOTc ALEF WITH PATAHe QAMATSe MAPIQc BET WITH DAGESH",
      "c GIMEL WITH DAGESHc DALET WITH DAGESHc HE WITH MAPIQc VAV WITH DAGESHc ZAYIN WITH DAGESH"]⟩,
    ⟨0xFB38, ["aHEBREW LETTER TET WITH DAGESHc YOD WITH DAGESHc FINAL KAF WITH DAGESH",
      "c KAF WITH DAGESHc LAMED WITH DAGESH"]⟩,
    ⟨0xFB3E, ["aHEBREW LETTER MEM WITH DAGESH"]⟩,
    ⟨0xFB40, ["aHEBREW LETTER NUN WITH DAGESHc SAMEKH WITH DAGESH"]⟩,
    ⟨0xFB43, ["aHEBREW LETTER FINAL PE WITH DAGESHc PE WITH DAGESH"]⟩,
    ⟨0xFB46, ["aHEBREW LETTER TSADI WITH DAGESHc QOF WITH DAGESHc RESH WITH DAGESH",
      "c SHIN WITH DAGESHc TAV WITH DAGESHc VAV WITH HOLAMc BET WITH RAFEc KAF WITH RAFE",
      "c PE WITH RAFEb LIGATURE ALEF LAMEDaARABIC LETTER ALEF WASLA ISOLATED FORMe FINAL FORM",
      "c BEEH ISOLATED FORMd FINAL FORMd INITIAL FORMd MEDIAL FORMc PEH ISOLATED FORMd FINAL FORM",
      "d INITIAL FORMd MEDIAL FORMc BEHEH ISOLATED FORMd FINAL FORMd INITIAL FORMd MEDIAL FORM",
      "c TTEHEH ISOLATED FORMd FINAL FORMd INITIAL FORMd MEDIAL FORMc TEHEH ISOLATED FORM",
      "d FINAL FORMd INITIAL FORMd MEDIAL FORMc TTEH ISOLATED FORMd FINAL FORMd INITIAL FORM",
      "d MEDIAL FORMc VEH ISOLATED FORMd FINAL FORMd INITIAL FORMd MEDIAL FORM",
      "c PEHEH ISOLATED FORMd FINAL FORMd INITIAL FORMd MEDIAL FORMc DYEH ISOLATED FORM",
      "d FINAL FORMd INITIAL FORMd MEDIAL FORMc NYEH ISOLATED FORMd FINAL FORMd INITIAL FORM",
      "d MEDIAL FORMc TCHEH ISOLATED FORMd FINAL FORMd INITIAL FORMd MEDIAL FORM",
      "c TCHEHEH ISOLATED FORMd FINAL FORMd INITIAL FORMd MEDIAL FORMc DDAHAL ISOLATED FORM",
      "d FINAL FORMc DAHAL ISOLATED FORMd FINAL FORMc DUL ISOLATED FORMd FINAL FORM",
      "c DDAL ISOLATED FORMd FINAL FORMc JEH ISOLATED FORMd FINAL FORMc RREH ISOLATED FORM",
      "d FINAL FORMc KEHEH ISOLATED FORMd FINAL FORMd INITIAL FORMd MEDIAL FORMc GAF ISOLATED FORM",
      "d FINAL FORMd INITIAL FORMd MEDIAL FORMc GUEH ISOLATED FORMd FINAL FORMd INITIAL FORM",
      "d MEDIAL FORMc NGOEH ISOLATED FORMd FINAL FORMd INITIAL FORMd MEDIAL FORM",
      "c NOON GHUNNA ISOLATED FORMe FINAL FORMc RNOON ISOLATED FORMd FINAL FORMd INITIAL FORM",
      "d MEDIAL FORMc HEH WITH YEH ABOVE ISOLATED FORMg FINAL FORMd GOAL ISOLATED FORMe FINAL FORM",
      "e INITIAL FORMe MEDIAL FORMd DOACHASHMEE ISOLATED FORMe FINAL FORMe INITIAL FORM",
      "e MEDIAL FORMc YEH BARREE ISOLATED FORMe FINAL FORMe WITH HAMZA ABOVE ISOLATED FORM",
      "h FINAL FORMb SYMBOL DOT ABOVEd BELOWc TWO DOTS ABOVEe BELOWc THREE DOTS ABOVEe BELOW",
      "e POINTING DOWNWARDS ABOVEg BELOWc FOUR DOTS ABOVEe BELOWc DOUBLE VERTICAL BAR BELOW",
      "c TWO DOTS VERTICALLY ABOVEf BELOWc RINGc SMALL TAH ABOVEe BELOWc WASLA ABOVE"]⟩,
    ⟨0xFBD3, ["aARABIC LETTER NG ISOLATED FORMd FINAL FORMd INITIAL FORMd MEDIAL FORM",
      "c U ISOLATED FORMd FINAL FORMc OE ISOLATED FORMd FINAL FORMc YU ISOLATED FORMd FINAL FORM",
      "c U WITH HAMZA ABOVE ISOLATED FORMc VE ISOLATED FORMd FINAL FORMc KIRGHIZ OE ISOLATED FORM",
      "e FINAL FORMd YU ISOLATED FORMe FINAL FORMc E ISOLATED FORMd FINAL FORMd INITIAL FORM",
      "d MEDIAL FORMc UIGHUR KAZAKH KIRGHIZ ALEF MAKSURA INITIAL FORMh MEDIAL FORM",
      "b LIGATURE YEH WITH HAMZA ABOVE WITH ALEF ISOLATED FORMi FINAL FORMh AE ISOLATED FORM",
      "i FINAL FORMh WAW ISOLATED FORMi FINAL FORMh U ISOLATED FORMi FINAL FORMh OE ISOLATED FORM",
      "i FINAL FORMh YU ISOLATED FORMi FINAL FORMh E ISOLATED FORMi FINAL FORMi INITIAL FORM",
      "c UIGHUR KIRGHIZ YEH WITH HAMZA ABOVE WITH ALEF MAKSURA ISOLATED FORMl FINAL FORM",
      "l INITIAL FORMb LETTER FARSI YEH ISOLATED FORMe FINAL FORMe INITIAL FORMe MEDIAL FORM",
      "b LIGATURE YEH WITH HAMZA ABOVE WITH JEEM ISOLATED FORMh HAH ISOLATED FORM",
      "h MEEM ISOLATED FORMh ALEF MAKSURA ISOLATED FORMh YEH ISOLATED FORM",
      "c BEH WITH JEEM ISOLATED FORMe HAH ISOLATED FORMe KHAH ISOLATED FORMe MEEM ISOLATED FORM",
      "e ALEF MAKSURA ISOLATED FORMe YEH ISOLATED FORMc TEH WITH JEEM ISOLATED FORM",
      "e HAH ISOLATED FORMe KHAH ISOLATED FORMe MEEM ISOLATED FORMe ALEF MAKSURA ISOLATED FORM",
      "e YEH ISOLATED FORMc THEH WITH JEEM ISOLATED FORMe MEEM ISOLATED FORM",
      "e ALEF MAKSURA ISOLATED FORMe YEH ISOLATED FORMc JEEM WITH HAH ISOLATED FORM",
      "e MEEM ISOLATED FORMc HAH WITH JEEM ISOLATED FORMe MEEM ISOLATED FORM",
      "c KHAH WITH JEEM ISOLATED FORMe HAH ISOLATED FORMe MEEM ISOLATED FORM",
      "c SEEN WITH JEEM ISOLATED FORMe HAH ISOLATED FORMe KHAH ISOLATED FORMe MEEM ISOLATED FORM",
      "c SAD WITH HAH ISOLATED FORMe MEEM ISOLATED FORMc DAD WITH JEEM ISOLATED FORM",
      "e HAH ISOLATED FORMe KHAH ISOLATED FORMe MEEM ISOLATED FORMc TAH WITH HAH ISOLATED FORM",
      "e MEEM ISOLATED FORMc ZAH WITH MEEM ISOLATED FORMc AIN WITH JEEM ISOLATED FORM",
      "e MEEM ISOLATED FORMc GHAIN WITH JEEM ISOLATED FORMe MEEM ISOLATED FORM",
      "c FEH WITH JEEM ISOLATED FORMe HAH ISOLATED FORMe KHAH ISOLATED FORMe MEEM ISOLATED FORM",
      "e ALEF MAKSURA ISOLATED FORMe YEH ISOLATED FORMc QAF WITH HAH ISOLATED FORM",
      "e MEEM ISOLATED FORMe ALEF MAKSURA ISOLATED FORMe YEH ISOLATED FORM",
      "c KAF WITH ALEF ISOLATED FORMe JEEM ISOLATED FORMe HAH ISOLATED FORMe KHAH ISOLATED FORM",
      "e LAM ISOLATED FORMe MEEM ISOLATED FORMe ALEF MAKSURA ISOLATED FORMe YEH ISOLATED FORM",
      "c LAM WITH JEEM ISOLATED FORMe HAH ISOLATED FORMe KHAH ISOLATED FORMe MEEM ISOLATED FORM",
      "e ALEF MAKSURA ISOLATED FORMe YEH ISOLATED FORMc MEEM WITH JEEM ISOLATED FORM",
      "e HAH ISOLATED FORMe KHAH ISOLATED FORMe MEEM ISOLATED FORMe ALEF MAKSURA ISOLATED FORM",
      "e YEH ISOLATED FORMc NOON WITH JEEM ISOLATED FORMe HAH ISOLATED FORMe KHAH ISOLATED FORM",
      "e MEEM ISOLATED FORMe ALEF MAKSURA ISOLATED FORMe YEH ISOLATED FORM",
      "c HEH WITH JEEM ISOLATED FORMe MEEM ISOLATED FORMe ALEF MAKSURA ISOLATED FORM",
      "e YEH ISOLATED FORMc YEH WITH JEEM ISOLATED FORMe HAH ISOLATED FORMe KHAH ISOLATED FORM",
      "e MEEM ISOLATED FORMe ALEF MAKSURA ISOLATED FORMe YEH ISOLATED FORM",
      "c THAL WITH SUPERSCRIPT ALEF ISOLATED FORMc REH WITH SUPERSCRIPT ALEF ISOLATED FORM",
      "c ALEF MAKSURA WITH SUPERSCRIPT ALEF ISOLATED FORMc SHADDA WITH DAMMATAN ISOLATED FORM",
      "e KASRATAN ISOLATED FORMe FATHA ISOLATED FORMe DAMMA ISOLATED FORMe KASRA ISOLATED FORM",
      "e SUPERSCRIPT ALEF ISOLATED FORMc YEH WITH HAMZA ABOVE WITH REH FINAL FORMh ZAIN FINAL FORM",
      "h MEEM FINAL FORMh NOON FINAL FORMh ALEF MAKSURA FINAL FORMh YEH FINAL FORM",
      "c BEH WITH REH FINAL FORMe ZAIN FINAL FORMe MEEM FINAL FORMe NOON FINAL FORM",
      "e ALEF MAKSURA FINAL FORMe YEH FINAL FORMc TEH WITH REH FINAL FORMe ZAIN FINAL FORM",
      "e MEEM FINAL FORMe NOON FINAL FORMe ALEF MAKSURA FINAL FORMe YEH FINAL FORM",
      "c THEH WITH REH FINAL FORMe ZAIN FINAL FORMe MEEM FINAL FORMe NOON FINAL FORM",
      "e ALEF MAKSURA FINAL FORMe YEH FINAL FORMc FEH WITH ALEF MAKSURA FINAL FORMe YEH FINAL FORM",
      "c QAF WITH ALEF MAKSURA FINAL FORMe YEH FINAL FORMc KAF WITH ALEF FINAL FORM",
      "e LAM FINAL FORMe MEEM FINAL FORMe ALEF MAKSURA FINAL FORMe YEH FINAL FORM",
      "c LAM WITH MEEM FINAL FORMe ALEF MAKSURA FINAL FORMe YEH FINAL FORM",
      "c MEEM WITH ALEF FINAL FORMe MEEM FINAL FORMc NOON WITH REH FINAL FORMe ZAIN FINAL FORM",
      "e MEEM FINAL FORMe NOON FINAL FORMe ALEF MAKSURA FINAL FORMe YEH FINAL FORM",
      "c ALEF MAKSURA WITH SUPERSCRIPT ALEF FINAL FORMc YEH WITH REH FINAL FORMe ZAIN FINAL FORM",
      "e MEEM FINAL FORMe NOON FINAL FORMe ALEF MAKSURA FINAL FORMe YEH FINAL FORM",
      "e HAMZA ABOVE WITH JEEM INITIAL FORMh HAH INITIAL FORMh KHAH INITIAL FORM",
      "h MEEM INITIAL FORMh HEH INITIAL FORMc BEH WITH JEEM INITIAL FORMe HAH INITIAL FORM",
      "e KHAH INITIAL FORMe MEEM INITIAL FORMe HEH INITIAL FORMc TEH WITH JEEM INITIAL FORM",
      "e HAH INITIAL FORMe KHAH INITIAL FORMe MEEM INITIAL FORMe HEH INITIAL FORM",
      "c THEH WITH MEEM INITIAL FORMc JEEM WITH HAH INITIAL FORMe MEEM INITIAL FORM",
      "c HAH WITH JEEM INITIAL FORMe MEEM INITIAL FORMc KHAH WITH JEEM INITIAL FORM",
      "e MEEM INITIAL FORMc SEEN WITH JEEM INITIAL FORMe HAH INITIAL FORMe KHAH INITIAL FORM",
      "e MEEM INITIAL FORMc SAD WITH HAH INITIAL FORMe KHAH INITIAL FORMe MEEM INITIAL FORM",
      "c DAD WITH JEEM INITIAL FORMe HAH INITIAL FORMe KHAH INITIAL FORMe MEEM INITIAL FORM",
      "c TAH WITH HAH INITIAL FORMc ZAH WITH MEEM INITIAL FORMc AIN WITH JEEM INITIAL FORM",
      "e MEEM INITIAL FORMc GHAIN WITH JEEM INITIAL FORMe MEEM INITIAL FORM",
      "c FEH WITH JEEM INITIAL FORMe HAH INITIAL FORMe KHAH INITIAL FORMe MEEM INITIAL FORM",
      "c QAF WITH HAH INITIAL FORMe MEEM INITIAL FORMc KAF WITH JEEM INITIAL FORM",
      "e HAH INITIAL FORMe KHAH INITIAL FORMe LAM INITIAL FORMe MEEM INITIAL FORM",
      "c LAM WITH JEEM INITIAL FORMe HAH INITIAL FORMe KHAH INITIAL FORMe MEEM INITIAL FORM",
      "e HEH INITIAL FORMc MEEM WITH JEEM INITIAL FORMe HAH INITIAL FORMe KHAH INITIAL FORM",
      "e MEEM INITIAL FORMc NOON WITH JEEM INITIAL FORMe HAH INITIAL FORMe KHAH INITIAL FORM",
      "e MEEM INITIAL FORMe HEH INITIAL FORMc HEH WITH JEEM INITIAL FORMe MEEM INITIAL FORM",
      "e SUPERSCRIPT ALEF INITIAL FORMc YEH WITH JEEM INITIAL FORMe HAH INITIAL FORM",
      "e KHAH INITIAL FORMe MEEM INITIAL FORMe HEH INITIAL FORMe HAMZA ABOVE WITH MEEM MEDIAL FORM",
      "h HEH MEDIAL FORMc BEH WITH MEEM MEDIAL FORMe HEH MEDIAL FORMc TEH WITH MEEM MEDIAL FORM",
      "e HEH MEDIAL FORMc THEH WITH MEEM MEDIAL FORMe HEH MEDIAL FORMc SEEN WITH MEEM MEDIAL FORM",
      "e HEH MEDIAL FORMc SHEEN WITH MEEM MEDIAL FORMe HEH MEDIAL FORMc KAF WITH LAM MEDIAL FORM",
      "e MEEM MEDIAL FORMc LAM WITH MEEM MEDIAL FORMc NOON WITH MEEM MEDIAL FORMe HEH MEDIAL FORM",
      "c YEH WITH MEEM MEDIAL FORMe HEH MEDIAL FORMc SHADDA WITH FATHA MEDIAL FORM",
      "e DAMMA MEDIAL FORMe KASRA MEDIAL FORMc TAH WITH ALEF MAKSURA ISOLATED FORM",
      "e YEH ISOLATED FORMc AIN WITH ALEF MAKSURA ISOLATED FORMe YEH ISOLATED FORM",
      "c GHAIN WITH ALEF MAKSURA ISOLATED FORMe YEH ISOLATED FORM",
      "c SEEN WITH ALEF MAKSURA ISOLATED FORMe YEH ISOLATED FORM",
      "c SHEEN WITH ALEF MAKSURA ISOLATED FORMe YEH ISOLATED FORM",
      "c HAH WITH ALEF MAKSURA ISOLATED FORMe YEH ISOLATED FORM",
      "c JEEM WITH ALEF MAKSURA ISOLATED FORMe YEH ISOLATED FORM",
      "c KHAH WITH ALEF MAKSURA ISOLATED FORMe YEH ISOLATED FORM",
      "c SAD WITH ALEF MAKSURA ISOLATED FORMe YEH ISOLATED FORM",
      "c DAD WITH ALEF MAKSURA ISOLATED FORMe YEH ISOLATED FORMc SHEEN WITH JEEM ISOLATED FORM",
      "e HAH ISOLATED FORMe KHAH ISOLATED FORMe MEEM ISOLATED FORMe REH ISOLATED FORM",
      "c SEEN WITH REH ISOLATED FORMc SAD WITH REH ISOLATED FORMc DAD WITH REH ISOLATED FORM",
      "c TAH WITH ALEF MAKSURA FINAL FORMe YEH FINAL FORMc AIN WITH ALEF MAKSURA FINAL FORM",
      "e YEH FINAL FORMc GHAIN WITH ALEF MAKSURA FINAL FORMe YEH FINAL FORM",
      "c SEEN WITH ALEF MAKSURA FINAL FORMe YEH FINAL FORMc SHEEN WITH ALEF MAKSURA FINAL FORM",
      "e YEH FINAL FORMc HAH WITH ALEF MAKSURA FINAL FORMe YEH FINAL FORM",
      "c JEEM WITH ALEF MAKSURA FINAL FORMe YEH FINAL FORMc KHAH WITH ALEF MAKSURA FINAL FORM",
      "e YEH FINAL FORMc SAD WITH ALEF MAKSURA FINAL FORMe YEH FINAL FORM",
      "c DAD WITH ALEF MAKSURA FINAL FORMe YEH FINAL FORMc SHEEN WITH JEEM FINAL FORM",
      "e HAH FINAL FORMe KHAH FINAL FORMe MEEM FINAL FORMe REH FINAL FORM",
      "c SEEN WITH REH FINAL FORMc SAD WITH REH FINAL FORMc DAD WITH REH FINAL FORM",
      "c SHEEN WITH JEEM INITIAL FORMe HAH INITIAL FORMe KHAH INITIAL FORMe MEEM INITIAL FORM",
      "c SEEN WITH HEH INITIAL FORMc SHEEN WITH HEH INITIAL FORMc TAH WITH MEEM INITIAL FORM",
      "c SEEN WITH JEEM MEDIAL FORMe HAH MEDIAL FORMe KHAH MEDIAL FORM",
      "c SHEEN WITH JEEM MEDIAL FORMe HAH MEDIAL FORMe KHAH MEDIAL FORMc TAH WITH MEEM MEDIAL FORM",
      "c ZAH WITH MEEM MEDIAL FORMc ALEF WITH FATHATAN FINAL FORMf ISOLATED FORM",
      "aORNATE LEFT PARENTHESISb RIGHT PARENTHESISaARABIC LIGATURE RAHIMAHU ALLAAH",
      "c RADI ALLAAHU ANHe ANHAAe ANHUMe ANHUMAAe ANHUNNAc SALLALLAAHU ALAYHI WA-AALIH",
      "c ALAYHI AS-SALAAMc ALAYHIM AS-SALAAMc ALAYHIMAA AS-SALAAMc ALAYHI AS-SALAATU WAS-SALAAM",
      "c QUDDISA SIRRAHc SALLALLAHU ALAYHI WAAALIHEE WA-SALLAMc ALAYHAA AS-SALAAM",
      "c TABAARAKA WA-TAAALAAc RAHIMAHUM ALLAAHc TEH WITH JEEM WITH MEEM INITIAL FORM",
      "e HAH WITH JEEM FINAL FORMh INITIAL FORMg MEEM INITIAL FORMe KHAH WITH MEEM INITIAL FORM",
      "e MEEM WITH JEEM INITIAL FORMg HAH INITIAL FORMg KHAH INITIAL FORM",
      "c JEEM WITH MEEM WITH HAH FINAL FORMh INITIAL FORMc HAH WITH MEEM WITH YEH FINAL FORM",
      "g ALEF MAKSURA FINAL FORMc SEEN WITH HAH WITH JEEM INITIAL FORMe JEEM WITH HAH INITIAL FORM",
      "g ALEF MAKSURA FINAL FORMe MEEM WITH HAH FINAL FORMh INITIAL FORMg JEEM INITIAL FORM",
      "g MEEM FINAL FORMh INITIAL FORMc SAD WITH HAH WITH HAH FINAL FORMh INITIAL FORM",
      "e MEEM WITH MEEM FINAL FORMc SHEEN WITH HAH WITH MEEM FINAL FORMh INITIAL FORM",
      "e JEEM WITH YEH FINAL FORMe MEEM WITH KHAH FINAL FORMh INITIAL FORMg MEEM FINAL FORM",
      "h INITIAL FORMc DAD WITH HAH WITH ALEF MAKSURA FINAL FORMe KHAH WITH MEEM FINAL FORM",
      "h INITIAL FORMc TAH WITH MEEM WITH HAH FINAL FORMh INITIAL FORMg MEEM INITIAL FORM",
      "g YEH FINAL FORMc AIN WITH JEEM WITH MEEM FINAL FORMe MEEM WITH MEEM FINAL FORM",
      "h INITIAL FORMg ALEF MAKSURA FINAL FORMc GHAIN WITH MEEM WITH MEEM FINAL FORM",
      "g YEH FINAL FORMg ALEF MAKSURA FINAL FORMc FEH WITH KHAH WITH MEEM FINAL FORMh INITIAL FORM",
      "c QAF WITH MEEM WITH HAH FINAL FORMg MEEM FINAL FORMc LAM WITH HAH WITH MEEM FINAL FORM",
      "g YEH FINAL FORMg ALEF MAKSURA FINAL FORMe JEEM WITH JEEM INITIAL FORMh FINAL FORM",
      "e KHAH WITH MEEM FINAL FORMh INITIAL FORMe MEEM WITH HAH FINAL FORMh INITIAL FORM",
      "c MEEM WITH HAH WITH JEEM INITIAL FORMg MEEM INITIAL FORMg YEH FINAL FORM",
      "e JEEM WITH HAH INITIAL FORMg MEEM INITIAL FORMe KHAH WITH JEEM INITIAL FORM",
      "g MEEM INITIAL FORM"]⟩,
    ⟨0xFD92, ["aARABIC LIGATURE MEEM WITH JEEM WITH KHAH INITIAL FORM",
      "c HEH WITH MEEM WITH JEEM INITIAL FORMg MEEM INITIAL FORM",
      "c NOON WITH HAH WITH MEEM INITIAL FORMg ALEF MAKSURA FINAL FORMe JEEM WITH MEEM FINAL FORM",
      "h INITIAL FORMg ALEF MAKSURA FINAL FORMe MEEM WITH YEH FINAL FORMg ALEF MAKSURA FINAL FORM",
      "c YEH WITH MEEM WITH MEEM FINAL FORMh INITIAL FORMc BEH WITH KHAH WITH YEH FINAL FORM",
      "c TEH WITH JEEM WITH YEH FINAL FORMg ALEF MAKSURA FINAL FORMe KHAH WITH YEH FINAL FORM",
      "g ALEF MAKSURA FINAL FORMe MEEM WITH YEH FINAL FORMg ALEF MAKSURA FINAL FORM",
      "c JEEM WITH MEEM WITH YEH FINAL FORMe HAH WITH ALEF MAKSURA FINAL FORM",
      "e MEEM WITH ALEF MAKSURA FINAL FORMc SEEN WITH KHAH WITH ALEF MAKSURA FINAL FORM",
      "c SAD WITH HAH WITH YEH FINAL FORMc SHEEN WITH HAH WITH YEH FINAL FORM",
      "c DAD WITH HAH WITH YEH FINAL FORMc LAM WITH JEEM WITH YEH FINAL FORM",
      "e MEEM WITH YEH FINAL FORMc YEH WITH HAH WITH YEH FINAL FORMe JEEM WITH YEH FINAL FORM",
      "e MEEM WITH YEH FINAL FORMc MEEM WITH MEEM WITH YEH FINAL FORM",
      "c QAF WITH MEEM WITH YEH FINAL FORMc NOON WITH HAH WITH YEH FINAL FORM",
      "c QAF WITH MEEM WITH HAH INITIAL FORMc LAM WITH HAH WITH MEEM INITIAL FORM",
      "c AIN WITH MEEM WITH YEH FINAL FORMc KAF WITH MEEM WITH YEH FINAL FORM",
      "c NOON WITH JEEM WITH HAH INITIAL FORMc MEEM WITH KHAH WITH YEH FINAL FORM",
      "c LAM WITH JEEM WITH MEEM INITIAL FORMc KAF WITH MEEM WITH MEEM FINAL FORM",
      "c LAM WITH JEEM WITH MEEM FINAL FORMc NOON WITH JEEM WITH HAH FINAL FORM",
      "c JEEM WITH HAH WITH YEH FINAL FORMc HAH WITH JEEM WITH YEH FINAL FORM",
      "c MEEM WITH JEEM WITH YEH FINAL FORMc FEH WITH MEEM WITH YEH FINAL FORM",
      "c BEH WITH HAH WITH YEH FINAL FORMc KAF WITH MEEM WITH MEEM INITIAL FORM",
      "c AIN WITH JEEM WITH MEEM INITIAL FORMc SAD WITH MEEM WITH MEEM INITIAL FORM",
      "c SEEN WITH KHAH WITH YEH FINAL FORMc NOON WITH JEEM WITH YEH FINAL FORM"]⟩,
    ⟨0xFDCF, ["aARABIC LIGATURE SALAAMUHU ALAYNAA"]⟩,
    ⟨0xFDF0, ["aARABIC LIGATURE SALLA USED AS KORANIC STOP SIGN ISOLATED FORM",
      "c QALA USED AS KORANIC STOP SIGN ISOLATED FORMc ALLAH ISOLATED FORMc AKBAR ISOLATED FORM",
      "c MOHAMMAD ISOLATED FORMc SALAM ISOLATED FORMc RASOUL ISOLATED FORMc ALAYHE ISOLATED FORM",
      "c WASALLAM ISOLATED FORMc SALLA ISOLATED FORMc SALLALLAHOU ALAYHE WASALLAMc JALLAJALALOUHOU",
      "aRIAL SIGNaARABIC LIGATURE BISMILLAH AR-RAHMAN AR-RAHEEMc SUBHAANAHU WA TAAALAA",
      "c AZZA WA JALLaVARIATION SELECTOR-1c-2c-3c-4c-5c-6c-7c-8c-9c-10c-11c-12c-13c-14c-15c-16",
      "aPRESENTATION FORM FOR VERTICAL COMMAe IDEOGRAPHIC COMMAf FULL STOPe COLONe SEMICOLON",
      "e EXCLAMATION MARKe QUESTION MARKe LEFT WHITE LENTICULAR BRACKET",
      "e RIGHT WHITE LENTICULAR BRAKCETe HORIZONTAL ELLIPSIS"]⟩,
    ⟨0xFE20, ["aCOMBINING LIGATURE LEFT HALFc RIGHT HALFb DOUBLE TILDE LEFT HALFd RIGHT HALF",
      "b MACRON LEFT HALFc RIGHT HALFb CONJOINING MACRONb LIGATURE LEFT HALF BELOW",
      "c RIGHT HALF BELOWb TILDE LEFT HALF BELOWc RIGHT HALF BELOWb MACRON LEFT HALF BELOW",
      "c RIGHT HALF BELOWb CONJOINING MACRON BELOWb CYRILLIC TITLO LEFT HALFd RIGHT HALF",
      "aPRESENTATION FORM FOR VERTICAL TWO DOT LEADERe EM DASHe EN DASHe LOW LINEe WAVY LOW LINE",
      "e LEFT PARENTHESISe RIGHT PARENTHESISe LEFT CURLY BRACKETe RIGHT CURLY BRACKET",
      "e LEFT TORTOISE SHELL BRACKETe RIGHT TORTOISE SHELL BRACKETe LEFT BLACK LENTICULAR BRACKET",
      "e RIGHT BLACK LENTICULAR BRACKETe LEFT DOUBLE ANGLE BRACKETe RIGHT DOUBLE ANGLE BRACKET",
      "e LEFT ANGLE BRACKETe RIGHT ANGLE BRACKETe LEFT CORNER BRACKETe RIGHT CORNER BRACKET",
      "e LEFT WHITE CORNER BRACKETe RIGHT WHITE CORNER BRACKETaSESAME DOTaWHITE SESAME DOT",
      "aPRESENTATION FORM FOR VERTICAL LEFT SQUARE BRACKETe RIGHT SQUARE BRACKETaDASHED OVERLINE",
      "aCENTRELINE OVERLINEaWAVY OVERLINEaDOUBLE WAVY OVERLINEaDASHED LOW LINEaCENTRELINE LOW LINE",
      "aWAVY LOW LINEaSMALL COMMAb IDEOGRAPHIC COMMAb FULL STOP"]⟩,
    ⟨0xFE54, ["aSMALL SEMICOLONb COLONb QUESTION MARKb EXCLAMATION MARKb EM DASHb LEFT PARENTHESIS",
      "b RIGHT PARENTHESISb LEFT CURLY BRACKETb RIGHT CURLY BRACKETb LEFT TORTOISE SHELL BRACKET",
      "b RIGHT TORTOISE SHELL BRACKETb NUMBER SIGNb AMPERSANDb ASTERISKb PLUS SIGNb HYPHEN-MINUS",
      "b LESS-THAN SIGNb GREATER-THAN SIGNb EQUALS SIGN"]⟩,
    ⟨0xFE68, ["aSMALL REVERSE SOLIDUSb DOLLAR SIGNb PERCENT SIGNb COMMERCIAL AT"]⟩,
    ⟨0xFE70, ["aARABIC FATHATAN ISOLATED FORMb TATWEEL WITH FATHATAN ABOVEb DAMMATAN ISOLATED FORM",
      "b TAIL FRAGMENTb KASRATAN ISOLATED FORM"]⟩,
    ⟨0xFE76, ["aARABIC FATHA ISOLATED FORMc MEDIAL FORMb DAMMA ISOLATED FORMc MEDIAL FORM",
      "b KASRA ISOLATED FORMc MEDIAL FORMb SHADDA ISOLATED FORMc MEDIAL FORMb SUKUN ISOLATED FORM",
      "c MEDIAL FORMb LETTER HAMZA ISOLATED FORMc ALEF WITH MADDA ABOVE ISOLATED FORMg FINAL FORM",
      "e HAMZA ABOVE ISOLATED FORMg FINAL FORMc WAW WITH HAMZA ABOVE ISOLATED FORMg FINAL FORM",
      "c ALEF WITH HAMZA BELOW ISOLATED FORMg FINAL FORMc YEH WITH HAMZA ABOVE ISOLATED FORM",
      "g FINAL FORMg INITIAL FORMg MEDIAL FORMc ALEF ISOLATED FORMd FINAL FORMc BEH ISOLATED FORM",
      "d FINAL FORMd INITIAL FORMd MEDIAL FORMc TEH MARBUTA ISOLATED FORMe FINAL FORM",
      "d ISOLATED FORMd FINAL FORMd INITIAL FORMd MEDIAL FORMc THEH ISOLATED FORMd FINAL FORM",
      "d INITIAL FORMd MEDIAL FORMc JEEM ISOLATED FORMd FINAL FORMd INITIAL FORMd MEDIAL FORM",
      "c HAH ISOLATED FORMd FINAL FORMd INITIAL FORMd MEDIAL FORMc KHAH ISOLATED FORMd FINAL FORM",
      "d INITIAL FORMd MEDIAL FORMc DAL ISOLATED FORMd FINAL FORMc THAL ISOLATED FORMd FINAL FORM",
      "c REH ISOLATED FORMd FINAL FORMc ZAIN ISOLATED FORMd FINAL FORMc SEEN ISOLATED FORM",
      "d FINAL FORMd INITIAL FORMd MEDIAL FORMc SHEEN ISOLATED FORMd FINAL FORMd INITIAL FORM",
      "d MEDIAL FORMc SAD ISOLATED FORMd FINAL FORMd INITIAL FORMd MEDIAL FORMc DAD ISOLATED FORM",
      "d FINAL FORMd INITIAL FORMd MEDIAL FORMc TAH ISOLATED FORMd FINAL FORMd INITIAL FORM",
      "d MEDIAL FORMc ZAH ISOLATED FORMd FINAL FORMd INITIAL FORMd MEDIAL FORMc AIN ISOLATED FORM",
      "d FINAL FORMd INITIAL FORMd MEDIAL FORMc GHAIN ISOLATED FORMd FINAL FORMd INITIAL FORM",
      "d MEDIAL FORMc FEH ISOLATED FORMd FINAL FORMd INITIAL FORMd MEDIAL FORMc QAF ISOLATED FORM",
      "d FINAL FORMd INITIAL FORMd MEDIAL FORMc KAF ISOLATED FORMd FINAL FORMd INITIAL FORM",
      "d MEDIAL FORMc LAM ISOLATED FORMd FINAL FORMd INITIAL FORMd MEDIAL FORMc MEEM ISOLATED FORM",
      "d FINAL FORMd INITIAL FORMd MEDIAL FORMc NOON ISOLATED FORMd FINAL FORMd INITIAL FORM",
      "d MEDIAL FORMc HEH ISOLATED FORMd FINAL FORMd INITIAL FORMd MEDIAL FORMc WAW ISOLATED FORM",
      "d FINAL FORMc ALEF MAKSURA ISOLATED FORMe FINAL FORMc YEH ISOLATED FORMd FINAL FORM",
      "d INITIAL FORMd MEDIAL FORMb LIGATURE LAM WITH ALEF WITH MADDA ABOVE ISOLATED FORM",
      "i FINAL FORMg HAMZA ABOVE ISOLATED FORMi FINAL FORMh BELOW ISOLATED FORMi FINAL FORM",
      "f ISOLATED FORMf FINAL FORM"]⟩,
    ⟨0xFEFF, ["aZERO WIDTH NO-BREAK SPACE"]⟩,
    ⟨0xFF01, ["aFULLWIDTH EXCLAMATION MARKb QUOTATION MARKb NUMBER SIGNb DOLLAR SIGNb PERCENT SIGN",
      "b AMPERSANDb APOSTROPHEb LEFT PARENTHESISb RIGHT PARENTHESISb ASTERISKb PLUS SIGNb COMMA",
      "b HYPHEN-MINUSb FULL STOPb SOLIDUSb DIGIT ZEROc ONEc TWOc THREEc FOURc FIVEc SIXc SEVEN",
      "c EIGHTc NINEb COLONb SEMICOLONb LESS-THAN SIGNb EQUALS SIGNb GREATER-THAN SIGN",
      "b QUESTION MARKb COMMERCIAL ATb LATIN CAPITAL LETTER Ae Be Ce De Ee Fe Ge He Ie Je Ke Le M",
      "e Ne Oe Pe Qe Re Se Te Ue Ve We Xe Ye Zb LEFT SQUARE BRACKETb REVERSE SOLIDUS",
      "b RIGHT SQUARE BRACKETb CIRCUMFLEX ACCENTb LOW LINEb GRAVE ACCENTb LATIN SMALL LETTER Ae B",
      "e Ce De Ee Fe Ge He Ie Je Ke Le Me Ne Oe Pe Qe Re Se Te Ue Ve We Xe Ye Z",
      "b LEFT CURLY BRACKETb VERTICAL LINEb RIGHT CURLY BRACKETb TILDEb LEFT WHITE PARENTHESIS",
      "b RIGHT WHITE PARENTHESISaHALFWIDTH IDEOGRAPHIC FULL STOPb LEFT CORNER BRACKET",
      "b RIGHT CORNER BRACKETb IDEOGRAPHIC COMMAb KATAKANA MIDDLE DOTc LETTER WOd SMALL Ae Ie Ue E",
      "e Oe YAe YUe YOe TUc-HIRAGANA PROLONGED SOUND MARKc LETTER Ad Id Ud Ed Od KAd KId KUd KE",
      "d KOd SAd SId SUd SEd SOd TAd TId TUd TEd TOd NAd NId NUd NEd NOd HAd HId HUd HEd HOd MA",
      "d MId MUd MEd MOd YAd YUd YOd RAd RId RUd REd ROd WAd Nc VOICED SOUND MARK",
      "c SEMI-VOICED SOUND MARKb HANGUL FILLERc LETTER KIYEOKd SSANGKIYEOKd KIYEOK-SIOSd NIEUN",
      "e-CIEUCe-HIEUHd TIKEUTd SSANGTIKEUTd RIEULe-KIYEOKe-MIEUMe-PIEUPe-SIOSe-THIEUTHe-PHIEUPH",
      "e-HIEUHd MIEUMd PIEUPd SSANGPIEUPd PIEUP-SIOSd SIOSd SSANGSIOSd IEUNGd CIEUCd SSANGCIEUC",
      "d CHIEUCHd KHIEUKHd THIEUTHd PHIEUPHd HIEUH"]⟩,
    ⟨0xFFC2, ["aHALFWIDTH HANGUL LETTER Ad AEd YAd YAEd EOd E"]⟩,
    ⟨0xFFCA, ["aHALFWIDTH HANGUL LETTER YEOd YEd Od WAd WAEd OE"]⟩,
    ⟨0xFFD2, ["aHALFWIDTH HANGUL LETTER YOd Ud WEOd WEd WId YU"]⟩,
    ⟨0xFFDA, ["aHALFWIDTH HANGUL LETTER EUd YId I"]⟩,
    ⟨0xFFE0, ["aFULLWIDTH CENT SIGNb POUND SIGNb NOT SIGNb MACRONb BROKEN BARb YEN SIGN",
      "b WON SIGN"]⟩,
    ⟨0xFFE8, ["aHALFWIDTH FORMS LIGHT VERTICALb LEFTWARDS ARROWb UPWARDS ARROWb RIGHTWARDS ARROW",
      "b DOWNWARDS ARROWb BLACK SQUAREb WHITE CIRCLE"]⟩,
    ⟨0xFFF9, ["aINTERLINEAR ANNOTATION ANCHORc SEPARATORc TERMINATORaOBJECT REPLACEMENT CHARACTER",
      "aREPLACEMENT CHARACTER"]⟩
  ]

end PromptContract.Text

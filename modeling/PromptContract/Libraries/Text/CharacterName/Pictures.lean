import PromptContract.Libraries.Text.CharacterName.Run

/-!
# Names of characters: pictures

The names of music, mathematics, gestures, games and pictures:
the characters from U+1D000 to U+10FFFF, by runs.
-/

namespace PromptContract.Text

/-- The names of music, mathematics, gestures, games and pictures. -/
def pictureNames : Array NameRun :=
  #[
    ⟨0x1D000, ["aBYZANTINE MUSICAL SYMBOL PSILId DASEIAd PERISPOMENId OXEIA EKFONITIKONe DIPLI",
      "d VAREIA EKFONITIKONe DIPLId KATHISTId SYRMATIKId PARAKLITIKId YPOKRISISe DIPLId KREMASTI",
      "d APESO EKFONITIKONd EXO EKFONITIKONd TELEIAd KENTIMATAd APOSTROFOSe DIPLId SYNEVMAd THITA",
      "d OLIGON ARCHAIONd GORGON ARCHAIONd PSILONd CHAMILONd VATHYd ISON ARCHAION",
      "d KENTIMA ARCHAIONd KENTIMATA ARCHAIONd SAXIMATAd PARICHONd STAVROS APODEXIA",
      "d OXEIAI ARCHAIONd VAREIAI ARCHAIONd APODERMA ARCHAIONd APOTHEMAd KLASMAd REVMA",
      "d PIASMA ARCHAIONd TINAGMAd ANATRICHISMAd SEISMAd SYNAGMA ARCHAIONe META STAVROU",
      "d OYRANISMA ARCHAIONd THEMAd LEMOId DYOd TRIAd TESSERAd KRATIMATAd APESO EXO NEO",
      "d FTHORA ARCHAIONd IMIFTHORAd TROMIKON ARCHAIONd KATAVA TROMIKONd PELASTONd PSIFISTON",
      "d KONTEVMAd CHOREVMA ARCHAIONd RAPISMAd PARAKALESMA ARCHAIONd PARAKLITIKI ARCHAIONd ICHADIN",
      "d NANAd PETASMAd KONTEVMA ALLOd TROMIKON ALLOd STRAGGISMATAd GRONTHISMATAd ISON NEO",
      "d OLIGON NEOd OXEIA NEOd PETASTId KOUFISMAd PETASTOKOUFISMAd KRATIMOKOUFISMAd PELASTON NEO",
      "d KENTIMATA NEO ANOd KENTIMA NEO ANOd YPSILId APOSTROFOS NEOd APOSTROFOI SYNDESMOS NEO",
      "d YPORROId KRATIMOYPORROONd ELAFRONd CHAMILId MIKRON ISONd VAREIA NEOd PIASMA NEO",
      "d PSIFISTON NEOd OMALONd ANTIKENOMAd LYGISMAd PARAKLITIKI NEOd PARAKALESMA NEO",
      "d ETERON PARAKALESMAd KYLISMAd ANTIKENOKYLISMAd TROMIKON NEOd EKSTREPTONd SYNAGMA NEO",
      "d SYRMAd CHOREVMA NEOd EPEGERMAd SEISMA NEOd XIRON KLASMAd TROMIKOPSIFISTON",
      "d PSIFISTOLYGISMAd TROMIKOLYGISMAd TROMIKOPARAKALESMAd PSIFISTOPARAKALESMAd TROMIKOSYNAGMA",
      "d PSIFISTOSYNAGMAd GORGOSYNTHETONd ARGOSYNTHETONd ETERON ARGOSYNTHETONd OYRANISMA NEO",
      "d THEMATISMOS ESOe EXOd THEMA APLOUNd THES KAI APOTHESd KATAVASMAd ENDOFONONd YFEN KATO",
      "e ANOd STAVROSd KLASMA ANOd DIPLI ARCHAIONd KRATIMA ARCHAIONe ALLOe NEOd APODERMA NEOd APLI",
      "d DIPLId TRIPLId TETRAPLId KORONISd LEIMMA ENOS CHRONOUe DYO CHRONONe TRION CHRONON",
      "e TESSARON CHRONONe IMISEOS CHRONOUd GORGON NEO ANOe PARESTIGMENON ARISTERAf DEXIA",
      "d DIGORGONe PARESTIGMENON ARISTERA KATOg ANOf DEXIAd TRIGORGONd ARGONd IMIDIARGONd DIARGON",
      "d AGOGI POLI ARGIe ARGOTERIe ARGIe METRIAe MESIe GORGIe GORGOTERIe POLI GORGI",
      "d MARTYRIA PROTOS ICHOSe ALLI PROTOS ICHOSe DEYTEROS ICHOSe ALLI DEYTEROS ICHOS",
      "e TRITOS ICHOSe TRIFONIASe TETARTOS ICHOSf LEGETOS ICHOSe LEGETOS ICHOSe PLAGIOS ICHOS",
      "d ISAKIA TELOUS ICHIMATOSd APOSTROFOI TELOUS ICHIMATOSd FANEROSIS TETRAFONIASe MONOFONIAS",
      "e DIFONIASd MARTYRIA VARYS ICHOSe PROTOVARYS ICHOSe PLAGIOS TETARTOS ICHOS",
      "d GORTHMIKON N APLOUNf DIPLOUNd ENARXIS KAI FTHORA VOUd IMIFONONd IMIFTHORON",
      "d FTHORA ARCHAION DEYTEROU ICHOUe DIATONIKI PAf NANAe NAOS ICHOSe DIATONIKI DI",
      "e SKLIRON DIATONON DIe DIATONIKI KEf ZOf NI KATOg ANOe MALAKON CHROMA DIFONIASg MONOFONIAS",
      "d FHTORA SKLIRON CHROMA VASISd FTHORA SKLIRON CHROMA SYNAFIe NENANOd CHROA ZYGOSe KLITON",
      "e SPATHId FTHORA I YFESIS TETARTIMORIONe ENARMONIOS ANTIFONIAd YFESIS TRITIMORION",
      "d DIESIS TRITIMORIONe TETARTIMORIONe APLI DYO DODEKATAe MONOGRAMMOS TESSERA DODEKATA",
      "e DIGRAMMOS EX DODEKATAe TRIGRAMMOS OKTO DODEKATAd YFESIS APLI DYO DODEKATA",
      "e MONOGRAMMOS TESSERA DODEKATAe DIGRAMMOS EX DODEKATAe TRIGRAMMOS OKTO DODEKATA",
      "d GENIKI DIESISe YFESISd DIASTOLI APLI MIKRIf MEGALIe DIPLIe THESEOSd SIMANSIS THESEOS",
      "f DISIMOUf TRISIMOUf TETRASIMOUe ARSEOSf DISIMOUf TRISIMOUf TETRASIMOUd DIGRAMMA GG",
      "d DIFTOGGOS OUd STIGMAd ARKTIKO PAe VOUe GAe DIe KEe ZOe NId KENTIMATA NEO MESO",
      "d KENTIMA NEO MESOd KENTIMATA NEO KATOd KENTIMA NEO KATOd KLASMA KATOd GORGON NEO KATO"]⟩,
    ⟨0x1D100, ["aMUSICAL SYMBOL SINGLE BARLINEc DOUBLE BARLINEc FINAL BARLINE",
      "c REVERSE FINAL BARLINEc DASHED BARLINEc SHORT BARLINEc LEFT REPEAT SIGNc RIGHT REPEAT SIGN",
      "c REPEAT DOTSc DAL SEGNOc DA CAPOc SEGNOc CODAc REPEATED FIGURE-1e-2e-3c FERMATAd BELOW",
      "c BREATH MARKc CAESURAc BRACEc BRACKETc ONE-LINE STAFFc TWO-LINE STAFFc THREE-LINE STAFF",
      "c FOUR-LINE STAFFc FIVE-LINE STAFFc SIX-LINE STAFFd-STRING FRETBOARDc FOUR-STRING FRETBOARD",
      "c G CLEFe OTTAVA ALTAf BASSAc C CLEFc F CLEFe OTTAVA ALTAf BASSAc DRUM CLEF-1e-2"]⟩,
    ⟨0x1D129, ["aMUSICAL SYMBOL MULTIPLE MEASURE RESTc DOUBLE SHARPd FLATc FLAT UPd DOWN",
      "c NATURAL UPd DOWNc SHARP UPd DOWNc QUARTER TONE SHARPe FLATc COMMON TIMEc CUT TIME",
      "c OTTAVA ALTAd BASSAc QUINDICESIMA ALTAd BASSAc MULTI RESTc WHOLE RESTc HALF REST",
      "c QUARTER RESTc EIGHTH RESTc SIXTEENTH RESTc THIRTY-SECOND RESTc SIXTY-FOURTH REST",
      "c ONE HUNDRED TWENTY-EIGHTH RESTc X NOTEHEADc PLUS NOTEHEADc CIRCLE X NOTEHEAD",
      "c SQUARE NOTEHEAD WHITEe BLACKc TRIANGLE NOTEHEAD UP WHITEf BLACKe LEFT WHITEf BLACK",
      "e RIGHT WHITEf BLACKe DOWN WHITEf BLACKe UP RIGHT WHITEg BLACKc MOON NOTEHEAD WHITEe BLACK",
      "c TRIANGLE-ROUND NOTEHEAD DOWN WHITEg BLACKc PARENTHESIS NOTEHEADc VOID NOTEHEAD",
      "c NOTEHEAD BLACKc NULL NOTEHEADc CLUSTER NOTEHEAD WHITEe BLACKc BREVEc WHOLE NOTE",
      "c HALF NOTEc QUARTER NOTEc EIGHTH NOTEc SIXTEENTH NOTEc THIRTY-SECOND NOTE",
      "c SIXTY-FOURTH NOTEc ONE HUNDRED TWENTY-EIGHTH NOTEc COMBINING STEMd SPRECHGESANG STEM",
      "d TREMOLO-1e-2e-3c FINGERED TREMOLO-1e-2e-3c COMBINING AUGMENTATION DOTd FLAG-1e-2e-3e-4e-5",
      "c BEGIN BEAMc END BEAMc BEGIN TIEc END TIEc BEGIN SLURc END SLURc BEGIN PHRASEc END PHRASE",
      "c COMBINING ACCENTd STACCATOd TENUTOd STACCATISSIMOd MARCATOe-STACCATOd ACCENT-STACCATO",
      "d LOUREc ARPEGGIATO UPd DOWNc COMBINING DOITd RIPd FLIPd SMEARd BENDd DOUBLE TONGUE",
      "d TRIPLE TONGUEc RINFORZANDOc SUBITOc Zc PIANOc MEZZOc FORTEc CRESCENDOc DECRESCENDO",
      "c GRACE NOTE SLASHe NO SLASHc TRc TURNc INVERTED TURNc TURN SLASHd UPc ORNAMENT STROKE-1e-2",
      "e-3e-4e-5e-6e-7e-8e-9e-10e-11c HAUPTSTIMMEc NEBENSTIMMEc END OF STIMMEc DEGREE SLASH",
      "c COMBINING DOWN BOWd UP BOWd HARMONICd SNAP PIZZICATOc PEDAL MARKd UP MARK",
      "c HALF PEDAL MARKc GLISSANDO UPd DOWNc WITH FINGERNAILSc DAMPd ALLc MAXIMAc LONGAc BREVIS",
      "c SEMIBREVIS WHITEd BLACKc MINIMAd BLACKc SEMIMINIMA WHITEd BLACKc FUSA WHITEd BLACK",
      "c LONGA PERFECTA RESTd IMPERFECTA RESTc BREVIS RESTc SEMIBREVIS RESTc MINIMA REST",
      "c SEMIMINIMA RESTc TEMPUS PERFECTUM CUM PROLATIONE PERFECTAg IMPERFECTA",
      "g PERFECTA DIMINUTION-1d IMPERFECTUM CUM PROLATIONE PERFECTAg IMPERFECTAh DIMINUTION-1i-2",
      "i-3c CROIXc GREGORIAN C CLEFd F CLEFc SQUARE Bc VIRGAc PODATUSc CLIVISc SCANDICUSc CLIMACUS",
      "c TORCULUSc PORRECTUSd FLEXUSc SCANDICUS FLEXUSc TORCULUS RESUPINUSc PES SUBPUNCTIS",
      "c KIEVAN C CLEFd END OF PIECEd FINAL NOTEd RECITATIVE MARKd WHOLE NOTEd HALF NOTE",
      "d QUARTER NOTE STEM DOWNg UPd EIGHTH NOTE STEM DOWNg UPd FLAT SIGNc SORIc KORON"]⟩,
    ⟨0x1D200, ["aGREEK VOCAL NOTATION SYMBOL-1e-2e-3e-4e-5e-6e-7e-8e-9e-10e-11e-12e-13e-14e-15e-16",
      "e-17e-18e-19e-20e-21e-22e-23e-24e-50e-51e-52e-53e-54b INSTRUMENTAL NOTATION SYMBOL-1e-2e-4",
      "e-5e-7e-8e-11e-12e-13e-14e-17e-18e-19e-23e-24e-25e-26e-27e-29e-30e-32e-36e-37e-38e-39e-40",
      "e-42e-43e-45e-47e-48e-49e-50e-51e-52e-53e-54aCOMBINING GREEK MUSICAL TRISEMEd TETRASEME",
      "d PENTASEMEaGREEK MUSICAL LEIMMA"]⟩,
    ⟨0x1D2E0, ["aMAYAN NUMERAL ZEROc ONEc TWOc THREEc FOURc FIVEc SIXc SEVENc EIGHTc NINEc TEN",
      "c ELEVENc TWELVEc THIRTEENc FOURTEENc FIFTEENc SIXTEENc SEVENTEENc EIGHTEENc NINETEEN"]⟩,
    ⟨0x1D300, ["aMONOGRAM FOR EARTHaDIGRAM FOR HEAVENLY EARTHc HUMAN EARTHc EARTHLY HEAVENd HUMAN",
      "c EARTHaTETRAGRAM FOR CENTREc FULL CIRCLEc MIREDc BARRIERc KEEPING SMALLc CONTRARIETY",
      "c ASCENTc OPPOSITIONc BRANCHING OUTc DEFECTIVENESS OR DISTORTIONc DIVERGENCEc YOUTHFULNESS",
      "c INCREASEc PENETRATIONc REACHc CONTACTc HOLDING BACKc WAITINGc FOLLOWINGc ADVANCEc RELEASE",
      "c RESISTANCEc EASEc JOYc CONTENTIONc ENDEAVOURc DUTIESc CHANGEc DECISIVENESS",
      "c BOLD RESOLUTIONc PACKINGc LEGIONc CLOSENESSc KINSHIPc GATHERINGc STRENGTHc PURITY",
      "c FULLNESSc RESIDENCEc LAW OR MODELc RESPONSEc GOING TO MEETc ENCOUNTERSc STOVEc GREATNESS",
      "c ENLARGEMENTc PATTERNc RITUALc FLIGHTc VASTNESS OR WASTINGc CONSTANCYc MEASUREc ETERNITY",
      "c UNITYc DIMINISHMENTc CLOSED MOUTHc GUARDEDNESSc GATHERING INc MASSINGc ACCUMULATION",
      "c EMBELLISHMENTc DOUBTc WATCHc SINKINGc INNERc DEPARTUREc DARKENINGc DIMMINGc EXHAUSTION",
      "c SEVERANCEc STOPPAGEc HARDNESSc COMPLETIONc CLOSUREc FAILUREc AGGRAVATIONc COMPLIANCE",
      "c ON THE VERGEc DIFFICULTIESc LABOURINGc FOSTERING"]⟩,
    ⟨0x1D360, ["aCOUNTING ROD UNIT DIGIT ONEe TWOe THREEe FOURe FIVEe SIXe SEVENe EIGHTe NINE",
      "c TENS DIGIT ONEe TWOe THREEe FOURe FIVEe SIXe SEVENe EIGHTe NINE",
      "aIDEOGRAPHIC TALLY MARK ONEd TWOd THREEd FOURd FIVEaTALLY MARK ONEc FIVE"]⟩,
    ⟨0x1D400, ["aMATHEMATICAL BOLD CAPITAL Ad Bd Cd Dd Ed Fd Gd Hd Id Jd Kd Ld Md Nd Od Pd Qd Rd S",
      "d Td Ud Vd Wd Xd Yd Zc SMALL Ad Bd Cd Dd Ed Fd Gd Hd Id Jd Kd Ld Md Nd Od Pd Qd Rd Sd Td U",
      "d Vd Wd Xd Yd Zb ITALIC CAPITAL Ad Bd Cd Dd Ed Fd Gd Hd Id Jd Kd Ld Md Nd Od Pd Qd Rd Sd T",
      "d Ud Vd Wd Xd Yd Zc SMALL Ad Bd Cd Dd Ed Fd G"]⟩,
    ⟨0x1D456, ["aMATHEMATICAL ITALIC SMALL Id Jd Kd Ld Md Nd Od Pd Qd Rd Sd Td Ud Vd Wd Xd Yd Z",
      "b BOLD ITALIC CAPITAL Ae Be Ce De Ee Fe Ge He Ie Je Ke Le Me Ne Oe Pe Qe Re Se Te Ue Ve W",
      "e Xe Ye Zd SMALL Ae Be Ce De Ee Fe Ge He Ie Je Ke Le Me Ne Oe Pe Qe Re Se Te Ue Ve We Xe Y",
      "e Zb SCRIPT CAPITAL A"]⟩,
    ⟨0x1D49E, ["aMATHEMATICAL SCRIPT CAPITAL Cd D"]⟩,
    ⟨0x1D4A2, ["aMATHEMATICAL SCRIPT CAPITAL G"]⟩,
    ⟨0x1D4A5, ["aMATHEMATICAL SCRIPT CAPITAL Jd K"]⟩,
    ⟨0x1D4A9, ["aMATHEMATICAL SCRIPT CAPITAL Nd Od Pd Q"]⟩,
    ⟨0x1D4AE, ["aMATHEMATICAL SCRIPT CAPITAL Sd Td Ud Vd Wd Xd Yd Zc SMALL Ad Bd Cd D"]⟩,
    ⟨0x1D4BB, ["aMATHEMATICAL SCRIPT SMALL F"]⟩,
    ⟨0x1D4BD, ["aMATHEMATICAL SCRIPT SMALL Hd Id Jd Kd Ld Md N"]⟩,
    ⟨0x1D4C5, ["aMATHEMATICAL SCRIPT SMALL Pd Qd Rd Sd Td Ud Vd Wd Xd Yd Zb BOLD SCRIPT CAPITAL A",
      "e Be Ce De Ee Fe Ge He Ie Je Ke Le Me Ne Oe Pe Qe Re Se Te Ue Ve We Xe Ye Zd SMALL Ae Be C",
      "e De Ee Fe Ge He Ie Je Ke Le Me Ne Oe Pe Qe Re Se Te Ue Ve We Xe Ye Zb FRAKTUR CAPITAL A",
      "d B"]⟩,
    ⟨0x1D507, ["aMATHEMATICAL FRAKTUR CAPITAL Dd Ed Fd G"]⟩,
    ⟨0x1D50D, ["aMATHEMATICAL FRAKTUR CAPITAL Jd Kd Ld Md Nd Od Pd Q"]⟩,
    ⟨0x1D516, ["aMATHEMATICAL FRAKTUR CAPITAL Sd Td Ud Vd Wd Xd Y"]⟩,
    ⟨0x1D51E, ["aMATHEMATICAL FRAKTUR SMALL Ad Bd Cd Dd Ed Fd Gd Hd Id Jd Kd Ld Md Nd Od Pd Qd R",
      "d Sd Td Ud Vd Wd Xd Yd Zb DOUBLE-STRUCK CAPITAL Ae B"]⟩,
    ⟨0x1D53B, ["aMATHEMATICAL DOUBLE-STRUCK CAPITAL De Ee Fe G"]⟩,
    ⟨0x1D540, ["aMATHEMATICAL DOUBLE-STRUCK CAPITAL Ie Je Ke Le M"]⟩,
    ⟨0x1D546, ["aMATHEMATICAL DOUBLE-STRUCK CAPITAL O"]⟩,
    ⟨0x1D54A, ["aMATHEMATICAL DOUBLE-STRUCK CAPITAL Se Te Ue Ve We Xe Y"]⟩,
    ⟨0x1D552, ["aMATHEMATICAL DOUBLE-STRUCK SMALL Ae Be Ce De Ee Fe Ge He Ie Je Ke Le Me Ne Oe P",
      "e Qe Re Se Te Ue Ve We Xe Ye Zb BOLD FRAKTUR CAPITAL Ae Be Ce De Ee Fe Ge He Ie Je Ke Le M",
      "e Ne Oe Pe Qe Re Se Te Ue Ve We Xe Ye Zd SMALL Ae Be Ce De Ee Fe Ge He Ie Je Ke Le Me Ne O",
      "e Pe Qe Re Se Te Ue Ve We Xe Ye Zb SANS-SERIF CAPITAL Ae Be Ce De Ee Fe Ge He Ie Je Ke Le M",
      "e Ne Oe Pe Qe Re Se Te Ue Ve We Xe Ye Zd SMALL Ae Be Ce De Ee Fe Ge He Ie Je Ke Le Me Ne O",
      "e Pe Qe Re Se Te Ue Ve We Xe Ye Zd BOLD CAPITAL Af Bf Cf Df Ef Ff Gf Hf If Jf Kf Lf Mf Nf O",
      "f Pf Qf Rf Sf Tf Uf Vf Wf Xf Yf Ze SMALL Af Bf Cf Df Ef Ff Gf Hf If Jf Kf Lf Mf Nf Of Pf Q",
      "f Rf Sf Tf Uf Vf Wf Xf Yf Zd ITALIC CAPITAL Af Bf Cf Df Ef Ff Gf Hf If Jf Kf Lf Mf Nf Of P",
      "f Qf Rf Sf Tf Uf Vf Wf Xf Yf Ze SMALL Af Bf Cf Df Ef Ff Gf Hf If Jf Kf Lf Mf Nf Of Pf Qf R",
      "f Sf Tf Uf Vf Wf Xf Yf Zd BOLD ITALIC CAPITAL Ag Bg Cg Dg Eg Fg Gg Hg Ig Jg Kg Lg Mg Ng O",
      "g Pg Qg Rg Sg Tg Ug Vg Wg Xg Yg Zf SMALL Ag Bg Cg Dg Eg Fg Gg Hg Ig Jg Kg Lg Mg Ng Og Pg Q",
      "g Rg Sg Tg Ug Vg Wg Xg Yg Zb MONOSPACE CAPITAL Ad Bd Cd Dd Ed Fd Gd Hd Id Jd Kd Ld Md Nd O",
      "d Pd Qd Rd Sd Td Ud Vd Wd Xd Yd Zc SMALL Ad Bd Cd Dd Ed Fd Gd Hd Id Jd Kd Ld Md Nd Od Pd Q",
      "d Rd Sd Td Ud Vd Wd Xd Yd Zb ITALIC SMALL DOTLESS Ie J"]⟩,
    ⟨0x1D6A8, ["aMATHEMATICAL BOLD CAPITAL ALPHAd BETAd GAMMAd DELTAd EPSILONd ZETAd ETAd THETA",
      "d IOTAd KAPPAd LAMDAd MUd NUd XId OMICRONd PId RHOd THETA SYMBOLd SIGMAd TAUd UPSILONd PHI",
      "d CHId PSId OMEGAc NABLAc SMALL ALPHAd BETAd GAMMAd DELTAd EPSILONd ZETAd ETAd THETAd IOTA",
      "d KAPPAd LAMDAd MUd NUd XId OMICRONd PId RHOd FINAL SIGMAd SIGMAd TAUd UPSILONd PHId CHI",
      "d PSId OMEGAc PARTIAL DIFFERENTIALc EPSILON SYMBOLc THETA SYMBOLc KAPPA SYMBOLc PHI SYMBOL",
      "c RHO SYMBOLc PI SYMBOLb ITALIC CAPITAL ALPHAd BETAd GAMMAd DELTAd EPSILONd ZETAd ETA",
      "d THETAd IOTAd KAPPAd LAMDAd MUd NUd XId OMICRONd PId RHOd THETA SYMBOLd SIGMAd TAU",
      "d UPSILONd PHId CHId PSId OMEGAc NABLAc SMALL ALPHAd BETAd GAMMAd DELTAd EPSILONd ZETAd ETA",
      "d THETAd IOTAd KAPPAd LAMDAd MUd NUd XId OMICRONd PId RHOd FINAL SIGMAd SIGMAd TAUd UPSILON",
      "d PHId CHId PSId OMEGAc PARTIAL DIFFERENTIALc EPSILON SYMBOLc THETA SYMBOLc KAPPA SYMBOL",
      "c PHI SYMBOLc RHO SYMBOLc PI SYMBOLb BOLD ITALIC CAPITAL ALPHAe BETAe GAMMAe DELTAe EPSILON",
      "e ZETAe ETAe THETAe IOTAe KAPPAe LAMDAe MUe NUe XIe OMICRONe PIe RHOe THETA SYMBOLe SIGMA",
      "e TAUe UPSILONe PHIe CHIe PSIe OMEGAd NABLAd SMALL ALPHAe BETAe GAMMAe DELTAe EPSILONe ZETA",
      "e ETAe THETAe IOTAe KAPPAe LAMDAe MUe NUe XIe OMICRONe PIe RHOe FINAL SIGMAe SIGMAe TAU",
      "e UPSILONe PHIe CHIe PSIe OMEGAd PARTIAL DIFFERENTIALd EPSILON SYMBOLd THETA SYMBOL",
      "d KAPPA SYMBOLd PHI SYMBOLd RHO SYMBOLd PI SYMBOLb SANS-SERIF BOLD CAPITAL ALPHAf BETA",
      "f GAMMAf DELTAf EPSILONf ZETAf ETAf THETAf IOTAf KAPPAf LAMDAf MUf NUf XIf OMICRONf PIf RHO",
      "f THETA SYMBOLf SIGMAf TAUf UPSILONf PHIf CHIf PSIf OMEGAe NABLAe SMALL ALPHAf BETAf GAMMA",
      "f DELTAf EPSILONf ZETAf ETAf THETAf IOTAf KAPPAf LAMDAf MUf NUf XIf OMICRONf PIf RHO",
      "f FINAL SIGMAf SIGMAf TAUf UPSILONf PHIf CHIf PSIf OMEGAe PARTIAL DIFFERENTIAL",
      "e EPSILON SYMBOLe THETA SYMBOLe KAPPA SYMBOLe PHI SYMBOLe RHO SYMBOLe PI SYMBOL",
      "e ITALIC CAPITAL ALPHAg BETAg GAMMAg DELTAg EPSILONg ZETAg ETAg THETAg IOTAg KAPPAg LAMDA",
      "g MUg NUg XIg OMICRONg PIg RHOg THETA SYMBOLg SIGMAg TAUg UPSILONg PHIg CHIg PSIg OMEGA",
      "f NABLAf SMALL ALPHAg BETAg GAMMAg DELTAg EPSILONg ZETAg ETAg THETAg IOTAg KAPPAg LAMDAg MU",
      "g NUg XIg OMICRONg PIg RHOg FINAL SIGMAg SIGMAg TAUg UPSILONg PHIg CHIg PSIg OMEGA",
      "f PARTIAL DIFFERENTIALf EPSILON SYMBOLf THETA SYMBOLf KAPPA SYMBOLf PHI SYMBOLf RHO SYMBOL",
      "f PI SYMBOLb BOLD CAPITAL DIGAMMAc SMALL DIGAMMA"]⟩,
    ⟨0x1D7CE, ["aMATHEMATICAL BOLD DIGIT ZEROd ONEd TWOd THREEd FOURd FIVEd SIXd SEVENd EIGHT",
      "d NINEb DOUBLE-STRUCK DIGIT ZEROe ONEe TWOe THREEe FOURe FIVEe SIXe SEVENe EIGHTe NINE",
      "b SANS-SERIF DIGIT ZEROe ONEe TWOe THREEe FOURe FIVEe SIXe SEVENe EIGHTe NINE",
      "d BOLD DIGIT ZEROf ONEf TWOf THREEf FOURf FIVEf SIXf SEVENf EIGHTf NINE",
      "b MONOSPACE DIGIT ZEROd ONEd TWOd THREEd FOURd FIVEd SIXd SEVENd EIGHTd NINE",
      "aSIGNWRITING HAND-FIST INDEXc-CIRCLE INDEXc-CUP INDEXc-OVAL INDEXc-HINGE INDEXc-ANGLE INDEX",
      "c-FIST INDEX BENTc-CIRCLE INDEX BENTc-FIST THUMB UNDER INDEX BENTd INDEX RAISED KNUCKLE",
      "e CUPPEDe HINGEDf LOWc-CIRCLE INDEX HINGEc-FIST INDEX MIDDLEc-CIRCLE INDEX MIDDLE",
      "c-FIST INDEX MIDDLE BENTf RAISED KNUCKLESf HINGEDe UP MIDDLE HINGEDe HINGED MIDDLE UP",
      "e MIDDLE CONJOINEDg INDEX BENTg MIDDLE BENTg CUPPEDg HINGEDf CROSSED",
      "c-CIRCLE INDEX MIDDLE CROSSEDc-FIST MIDDLE BENT OVER INDEXd INDEX BENT OVER MIDDLE",
      "e MIDDLE THUMBc-CIRCLE INDEX MIDDLE THUMBc-FIST INDEX MIDDLE STRAIGHT THUMB BENT",
      "f BENT THUMB STRAIGHTf THUMB BENTf HINGED SPREAD THUMB SIDEe UP MIDDLE HINGED THUMB SIDE",
      "i CONJOINEDe HINGED MIDDLE UP THUMB SIDEe MIDDLE UP SPREAD THUMB FORWARDf THUMB CUPPED",
      "g CIRCLEDg HOOKEDg HINGEDd THUMB BETWEEN INDEX MIDDLE STRAIGHT",
      "d INDEX MIDDLE CONJOINED THUMB SIDEi CONJOINEDi BENTd MIDDLE THUMB HOOKED INDEX UP",
      "d INDEX THUMB HOOKED MIDDLE UPe MIDDLE CONJOINED HINGED THUMB SIDEf CROSSED THUMB SIDE",
      "f CONJOINED THUMB FORWARDg CUPPED THUMB FORWARDd MIDDLE THUMB CUPPED INDEX UP",
      "d INDEX THUMB CUPPED MIDDLE UPd MIDDLE THUMB CIRCLED INDEX UPh HINGED",
      "d INDEX THUMB ANGLED OUT MIDDLE UPg IN MIDDLE UPf CIRCLED MIDDLE UP",
      "e MIDDLE THUMB CONJOINED HINGEDg ANGLED OUThd MIDDLE THUMB ANGLED OUT INDEX UPi CROSSED",
      "g INDEX UPd INDEX THUMB HOOKED MIDDLE HINGEDc-FLAT FOUR FINGERSf BENTf HINGEDf CONJOINED",
      "g SPLITc-CLAW FOUR FINGERS CONJOINEDc-FIST FOUR FINGERS CONJOINED BENT",
      "c-HINGE FOUR FINGERS CONJOINEDc-FLAT FIVE FINGERS SPREADd HEEL FIVE FINGERS SPREAD",
      "d FIVE FINGERS SPREAD FOUR BENTd HEEL FIVE FINGERS SPREAD FOUR BENT",
      "d FIVE FINGERS SPREAD BENTd HEEL FIVE FINGERS SPREAD BENT",
      "d FIVE FINGERS SPREAD THUMB FORWARDc-CUP FIVE FINGERS SPREADg OPEN",
      "c-HINGE FIVE FINGERS SPREAD OPENc-OVAL FIVE FINGERS SPREADc-FLAT FIVE FINGERS SPREAD HINGED",
      "h THUMB SIDEh NO THUMBdd BETWEEN PALM FACINGSd HEELd THUMB SIDEd HEEL THUMB SIDE",
      "d THUMB BENTe FORWARDd SPLIT INDEX THUMB SIDEe CENTREf THUMB SIDEh BENTe LITTLEc-CLAW",
      "d THUMB SIDEd NO THUMBd THUMB FORWARDc-HOOK CURLICUEdc-CUP OPENdd OPEN THUMB SIDE",
      "d THUMB SIDEd OPEN NO THUMBd NO THUMBd OPEN THUMB FORWARDd THUMB FORWARDc-CURLICUE OPENd",
      "c-CIRCLEc-OVALd THUMB SIDEd NO THUMBd THUMB FORWARDc-HINGE OPENe THUMB FORWARDdd SMALL",
      "d OPEN THUMB SIDEd THUMB SIDEd OPEN NO THUMBd NO THUMBd THUMB SIDE TOUCHING INDEX",
      "e BETWEEN MIDDLE RINGc-ANGLEc-FIST INDEX MIDDLE RINGc-CIRCLE INDEX MIDDLE RING",
      "c-HINGE INDEX MIDDLE RINGc-ANGLE INDEX MIDDLE RINGc-HINGE LITTLE",
      "c-FIST INDEX MIDDLE RING BENTg CONJOINEDc-HINGE INDEX MIDDLE RING CONJOINED",
      "c-FIST LITTLE DOWNf RIPPLE STRAIGHTg CURVEDf OTHERS CIRCLEDe UPd THUMB UNDER LITTLE UP",
      "c-CIRCLE LITTLE UPc-OVAL LITTLE UPc-ANGLE LITTLE UPc-FIST LITTLE RAISED KNUCKLEe BENT",
      "e TOUCHES THUMBe THUMBc-HINGE LITTLE THUMBc-FIST LITTLE INDEX THUMB",
      "c-HINGE LITTLE INDEX THUMBc-ANGLE LITTLE INDEX THUMB INDEX THUMB OUTic-FIST LITTLE INDEX",
      "c-CIRCLE LITTLE INDEXc-HINGE LITTLE INDEXc-ANGLE LITTLE INDEXc-FIST INDEX MIDDLE LITTLE",
      "c-CIRCLE INDEX MIDDLE LITTLEc-HINGE INDEX MIDDLE LITTLEd RINGc-ANGLE INDEX MIDDLE LITTLE",
      "c-FIST INDEX MIDDLE CROSS LITTLEc-CIRCLE INDEX MIDDLE CROSS LITTLEc-FIST RING DOWN",
      "c-HINGE RING DOWN INDEX THUMB HOOK MIDDLEc-ANGLE RING DOWN MIDDLE THUMB INDEX CROSS",
      "c-FIST RING UPe RAISED KNUCKLEe LITTLEc-CIRCLE RING LITTLEc-OVAL RING LITTLE",
      "c-ANGLE RING LITTLEc-FIST RING MIDDLEf CONJOINEDf RAISED KNUCKLESe INDEXe THUMB",
      "c-HOOK RING THUMBc-FIST INDEX RING LITTLEc-CIRCLE INDEX RING LITTLE",
      "c-CURLICUE INDEX RING LITTLE ONc-HOOK INDEX RING LITTLE OUTg INg UNDER",
      "c-CUP INDEX RING LITTLEc-HINGE INDEX RING LITTLEc-ANGLE INDEX RING LITTLE OUTg",
      "c-FIST MIDDLE DOWNc-HINGE MIDDLEc-FIST MIDDLE UPc-CIRCLE MIDDLE UP",
      "c-FIST MIDDLE RAISED KNUCKLEe UP THUMB SIDEc-HOOK MIDDLE THUMBc-FIST MIDDLE THUMB LITTLE",
      "e LITTLEe RING LITTLEc-CIRCLE MIDDLE RING LITTLEc-CURLICUE MIDDLE RING LITTLE ON",
      "c-CUP MIDDLE RING LITTLEc-HINGE MIDDLE RING LITTLEc-ANGLE MIDDLE RING LITTLE OUTg INg",
      "c-CIRCLE MIDDLE RING LITTLE BENTc-CLAW MIDDLE RING LITTLE CONJOINEDh SIDE",
      "c-HOOK MIDDLE RING LITTLE CONJOINED OUTh INhc-HINGE INDEX HINGEDc-FIST INDEX THUMB SIDE",
      "c-HINGE INDEX THUMB SIDEc-FIST INDEX THUMB SIDE THUMB DIAGONALh CONJOINEDh BENTg INDEX BENT",
      "g BOTH BENTg INDEX HINGEf FORWARD INDEX STRAIGHTh BENTf HOOKf CURLICUEf CURVE THUMB INSIDE",
      "c-CLAW INDEX THUMB CURVE THUMB INSIDEc-FIST INDEX THUMB CURVE THUMB UNDERf CIRCLE",
      "c-CUP INDEX THUMBf OPENc-HINGE INDEX THUMB OPENf LARGEff SMALLc-ANGLE INDEX THUMB OUTf INf",
      "c-FIST THUMBe HEELe SIDE DIAGONALf CONJOINEDf BENTe FORWARDe BETWEEN INDEX MIDDLE",
      "f MIDDLE RINGf RING LITTLEe UNDER TWO FINGERSe OVER TWO FINGERSe UNDER THREE FINGERS",
      "f FOUR FINGERSe OVER FOUR RAISED KNUCKLESdd HEELb TOUCH SINGLEc MULTIPLEc BETWEEN",
      "b GRASP SINGLEc MULTIPLEc BETWEENb STRIKE SINGLEc MULTIPLEc BETWEENb BRUSH SINGLEc MULTIPLE",
      "c BETWEENb RUB SINGLEc MULTIPLEc BETWEENb SURFACE SYMBOLSc BETWEENb SQUEEZE LARGE SINGLE",
      "c SMALL SINGLEc LARGE MULTIPLEc SMALL MULTIPLEc SEQUENTIALb FLICK LARGE SINGLE",
      "c SMALL SINGLEc LARGE MULTIPLEc SMALL MULTIPLEc SEQUENTIALb SQUEEZE FLICK ALTERNATING",
      "b MOVEMENT-HINGE UP DOWN LARGEf SMALLe SEQUENTIALd DOWN SEQUENTIAL",
      "d UP DOWN ALTERNATING LARGEg SMALLd SIDE TO SIDE SCISSORSc-WALLPLANE FINGER CONTACT",
      "c-FLOORPLANE FINGER CONTACTc-WALLPLANE SINGLE STRAIGHT SMALLf MEDIUMf LARGEf LARGEST",
      "e WRIST FLEXd DOUBLE STRAIGHTe WRIST FLEXe ALTERNATINGf WRIST FLEXd CROSS",
      "d TRIPLE STRAIGHT MOVEMENTe WRIST FLEXe ALTERNATINGf WRIST FLEXd BEND SMALLe MEDIUMe LARGE",
      "d CORNER SMALLe MEDIUMe LARGEe ROTATIONd CHECK SMALLe MEDIUMe LARGEd BOX SMALLe MEDIUM",
      "e LARGEd ZIGZAG SMALLe MEDIUMe LARGEd PEAKS SMALLe MEDIUMe LARGE",
      "b TRAVEL-WALLPLANE ROTATION-WALLPLANE SINGLEf DOUBLEf ALTERNATINGe-FLOORPLANE SINGLE",
      "f DOUBLEf ALTERNATINGd SHAKINGd ARM SPIRAL SINGLEf DOUBLEf TRIPLE",
      "b MOVEMENT-DIAGONAL AWAY SMALLe MEDIUMe LARGEe LARGESTd TOWARDS SMALLe MEDIUMe LARGE",
      "e LARGESTd BETWEEN AWAY SMALLf MEDIUMf LARGEf LARGESTe TOWARDS SMALLf MEDIUMf LARGE",
      "f LARGESTc-FLOORPLANE SINGLE STRAIGHT SMALLf MEDIUMf LARGEf LARGESTe WRIST FLEX",
      "d DOUBLE STRAIGHTe WRIST FLEXe ALTERNATINGf WRIST FLEXd CROSSd TRIPLE STRAIGHT MOVEMENT",
      "e WRIST FLEXe ALTERNATING MOVEMENTf WRIST FLEXd BENDd CORNER SMALLe MEDIUMe LARGEd CHECK",
      "d BOX SMALLe MEDIUMe LARGEd ZIGZAG SMALLe MEDIUMe LARGEd PEAKS SMALLe MEDIUMe LARGE",
      "b TRAVEL-FLOORPLANE ROTATION-FLOORPLANE SINGLEf DOUBLEf ALTERNATINGe-WALLPLANE SINGLE",
      "f DOUBLEf ALTERNATINGd SHAKINGb MOVEMENT-WALLPLANE CURVE QUARTER SMALLf MEDIUMf LARGE",
      "f LARGESTe HALF-CIRCLE SMALLg MEDIUMg LARGEg LARGESTe THREE-QUARTER CIRCLE SMALLh MEDIUM",
      "d HUMP SMALLe MEDIUMe LARGEd LOOP SMALLe MEDIUMe LARGEe SMALL DOUBLE",
      "d WAVE CURVE DOUBLE SMALLg MEDIUMg LARGEf TRIPLE SMALLg MEDIUMg LARGEd CURVE THEN STRAIGHT",
      "d CURVED CROSS SMALLf MEDIUMb ROTATION-WALLPLANE SINGLEd DOUBLEd ALTERNATE",
      "b MOVEMENT-WALLPLANE SHAKINGd CURVE HITTING FRONT WALLd HUMP HITTING FRONT WALL",
      "d LOOP HITTING FRONT WALLd WAVE HITTING FRONT WALL",
      "b ROTATION-WALLPLANE SINGLE HITTING FRONT WALLd DOUBLE HITTING FRONT WALL",
      "d ALTERNATING HITTING FRONT WALLb MOVEMENT-WALLPLANE CURVE HITTING CHEST",
      "d HUMP HITTING CHESTd LOOP HITTING CHESTd WAVE HITTING CHEST",
      "b ROTATION-WALLPLANE SINGLE HITTING CHESTd DOUBLE HITTING CHESTd ALTERNATING HITTING CHEST",
      "b MOVEMENT-WALLPLANE WAVE DIAGONAL PATH SMALLg MEDIUMg LARGE",
      "c-FLOORPLANE CURVE HITTING CEILING SMALLg LARGEd HUMP HITTING CEILING SMALL DOUBLE",
      "g LARGE DOUBLEg SMALL TRIPLEg LARGE TRIPLEd LOOP HITTING CEILING SMALL SINGLEg LARGE SINGLE",
      "g SMALL DOUBLEg LARGE DOUBLEd WAVE HITTING CEILING SMALLg LARGE",
      "b ROTATION-FLOORPLANE SINGLE HITTING CEILINGd DOUBLE HITTING CEILING",
      "d ALTERNATING HITTING CEILINGb MOVEMENT-FLOORPLANE CURVE HITTING FLOOR SMALLg LARGE",
      "d HUMP HITTING FLOOR SMALL DOUBLEg LARGE DOUBLEg TRIPLE SMALL TRIPLEh LARGE TRIPLE",
      "d LOOP HITTING FLOOR SMALL SINGLEg LARGE SINGLEg SMALL DOUBLEg LARGE DOUBLE",
      "d WAVE HITTING FLOOR SMALLg LARGEb ROTATION-FLOORPLANE SINGLE HITTING FLOOR",
      "d DOUBLE HITTING FLOORd ALTERNATING HITTING FLOORb MOVEMENT-FLOORPLANE CURVE SMALLe MEDIUM",
      "e LARGEe LARGESTe COMBINEDd HUMP SMALLd LOOP SMALLd WAVE SNAKEe SMALLe LARGE",
      "b ROTATION-FLOORPLANE SINGLEd DOUBLEd ALTERNATINGb MOVEMENT-FLOORPLANE SHAKING PARALLEL",
      "c-WALLPLANE ARM CIRCLE SMALL SINGLEf MEDIUM SINGLEf SMALL DOUBLEf MEDIUM DOUBLE",
      "c-FLOORPLANE ARM CIRCLE HITTING WALL SMALL SINGLEh MEDIUM SINGLEh LARGE SINGLE",
      "h SMALL DOUBLEh MEDIUM DOUBLEh LARGE DOUBLEc-WALLPLANE WRIST CIRCLE FRONT SINGLEg DOUBLE",
      "c-FLOORPLANE WRIST CIRCLE HITTING WALL SINGLEh DOUBLEc-WALLPLANE FINGER CIRCLES SINGLE",
      "f DOUBLEc-FLOORPLANE FINGER CIRCLES HITTING WALL SINGLEh DOUBLEb DYNAMIC ARROWHEAD SMALL",
      "d LARGEc FASTc SLOWc TENSEc RELAXEDc SIMULTANEOUSd ALTERNATINGc EVERY OTHER TIMEc GRADUAL",
      "b HEADc RIMc MOVEMENT-WALLPLANE STRAIGHTe TILTd-FLOORPLANE STRAIGHTd-WALLPLANE CURVE",
      "d-FLOORPLANE CURVEd CIRCLEb FACE DIRECTION POSITION NOSE FORWARD TILTINGf UP OR DOWN",
      "i TILTINGb EYEBROWS STRAIGHT UPd NEUTRALd DOWNb DREAMY EYEBROWS NEUTRAL DOWNd DOWN NEUTRAL",
      "d UP NEUTRALd NEUTRAL UPb FOREHEAD NEUTRALc CONTACTc WRINKLEDb EYES OPENc SQUEEZEDc CLOSED",
      "b EYE BLINK SINGLEd MULTIPLEb EYES HALF OPENc WIDE OPENc HALF CLOSEDc WIDENING MOVEMENT",
      "b EYE WINKb EYELASHES UPc DOWNc FLUTTERINGb EYEGAZE-WALLPLANE STRAIGHTe DOUBLEe ALTERNATING",
      "c-FLOORPLANE STRAIGHTe DOUBLEe ALTERNATINGc-WALLPLANE CURVEDc-FLOORPLANE CURVED",
      "c-WALLPLANE CIRCLINGb CHEEKS PUFFEDc NEUTRALc SUCKEDb TENSE CHEEKS HIGHd MIDDLEd LOWb EARS",
      "b NOSE NEUTRALc CONTACTc WRINKLESc WIGGLESb AIR BLOWING OUTc SUCKING IN",
      "c BLOW SMALL ROTATIONSc SUCK SMALL ROTATIONSb BREATH INHALEc EXHALEb MOUTH CLOSED NEUTRAL",
      "d FORWARDd CONTACTc SMILEd WRINKLEDd OPENc FROWNd WRINKLEDd OPENc OPEN CIRCLEd FORWARD",
      "d WRINKLEDd OVALe WRINKLEDe YAWNd RECTANGLEe WRINKLEDe YAWNc KISSd FORWARDd WRINKLEDc TENSE",
      "d FORWARDd SUCKEDb LIPS PRESSED TOGETHERb LIP LOWER OVER UPPERc UPPER OVER LOWER",
      "b MOUTH CORNERSc WRINKLES SINGLEd DOUBLEb TONGUE STICKING OUT FARc LICKING LIPS",
      "c TIP BETWEEN LIPSd TOUCHING INSIDE MOUTHc INSIDE MOUTH RELAXEDc MOVES AGAINST CHEEK",
      "c CENTRE STICKING OUTd INSIDE MOUTHb TEETHc MOVEMENTc ON TONGUEe MOVEMENTd LIPSe MOVEMENT",
      "c BITE LIPSb MOVEMENT-WALLPLANE JAWc-FLOORPLANE JAWb NECKb HAIRb EXCITEMENT",
      "b SHOULDER HIP SPINEd POSITIONSb WALLPLANE SHOULDER HIP MOVEb FLOORPLANE SHOULDER HIP MOVE",
      "b SHOULDER TILTING FROM WAISTb TORSO-WALLPLANE STRAIGHT STRETCHd CURVED BEND",
      "c-FLOORPLANE TWISTINGb UPPER BODY TILTING FROM HIP JOINTSb LIMB COMBINATIONc LENGTH-1d-2d-3",
      "d-4d-5d-6d-7b FINGERb LOCATION-WALLPLANE SPACEc-FLOORPLANE SPACEc HEIGHTc WIDTHc DEPTH",
      "c HEAD NECKc TORSOc LIMBS DIGITSb COMMAb FULL STOPb SEMICOLONb COLONb PARENTHESIS"]⟩,
    ⟨0x1DA9B, ["aSIGNWRITING FILL MODIFIER-2d-3d-4d-5d-6"]⟩,
    ⟨0x1DAA1, ["aSIGNWRITING ROTATION MODIFIER-2d-3d-4d-5d-6d-7d-8d-9d-10d-11d-12d-13d-14d-15",
      "d-16"]⟩,
    ⟨0x1DF00, ["aLATIN SMALL LETTER FENG DIGRAPH WITH TRILLd REVERSED SCRIPT G",
      "b LETTER SMALL CAPITAL TURNED Gb SMALL LETTER REVERSED Kb LETTER SMALL CAPITAL L WITH BELT",
      "b SMALL LETTER LEZH WITH RETROFLEX HOOKd TURNED Y WITH BELTd REVERSED ENG",
      "d TURNED R WITH LONG LEG AND RETROFLEX HOOKd T WITH HOOK AND RETROFLEX HOOK",
      "b LETTER RETROFLEX CLICK WITH RETROFLEX HOOKb SMALL LETTER ESH WITH DOUBLE BARh AND CURL",
      "d TURNED T WITH CURLb LETTER INVERTED GLOTTAL STOP WITH CURLc STRETCHED C WITH CURL",
      "c SMALL CAPITAL TURNED Kb SMALL LETTER L WITH FISHHOOKd DEZH DIGRAPH WITH PALATAL HOOK",
      "d L WITH BELT AND PALATAL HOOKd ENG WITH PALATAL HOOKd TURNED R WITH PALATAL HOOK",
      "d R WITH FISHHOOK AND PALATAL HOOKd TESH DIGRAPH WITH PALATAL HOOKd EZH WITH PALATAL HOOK",
      "d DEZH DIGRAPH WITH RETROFLEX HOOKd I WITH STROKE AND RETROFLEX HOOKd O WITH RETROFLEX HOOK",
      "d TESH DIGRAPH WITH RETROFLEX HOOKd C WITH RETROFLEX HOOKd S WITH CURL"]⟩,
    ⟨0x1E000, ["aCOMBINING GLAGOLITIC LETTER AZUd BUKYd VEDEd GLAGOLId DOBROd YESTUd ZHIVETE"]⟩,
    ⟨0x1E008, ["aCOMBINING GLAGOLITIC LETTER ZEMLJAd IZHEd INITIAL IZHEd Id DJERVId KAKOd LJUDIJE",
      "d MYSLITEd NASHId ONUd POKOJId RITSId SLOVOd TVRIDOd UKUd FRITUd HERU"]⟩,
    ⟨0x1E01B, ["aCOMBINING GLAGOLITIC LETTER SHTAd TSId CHRIVId SHAd YERUd YERId YATI"]⟩,
    ⟨0x1E023, ["aCOMBINING GLAGOLITIC LETTER YUd SMALL YUS"]⟩,
    ⟨0x1E026, ["aCOMBINING GLAGOLITIC LETTER YOd IOTATED SMALL YUSd BIG YUSd IOTATED BIG YUS",
      "d FITA"]⟩,
    ⟨0x1E100, ["aNYIAKENG PUACHUE HMONG LETTER MAe TSAe NTAe TAe HAe NAe XAe NKAe CAe LAe SAe ZA",
      "e NCAe NTSAe KAe DAe NYAe NRAe VAe NTXAe TXAe FAe RAe QAe YAe NQAe PAe XYAe NPAe DLAe NPLA",
      "e HAHe MLAe PLAe GAe RRAe Ae AAe Ie Ue Oe OOe Ee EEe W"]⟩,
    ⟨0x1E130, ["aNYIAKENG PUACHUE HMONG TONE-Be-Me-Je-Ve-Se-Ge-Dd SIGN FOR PERSONf THINGf LOCATION",
      "f ANIMALf INVERTEBRATEe XW XWd SYLLABLE LENGTHENER"]⟩,
    ⟨0x1E140, ["aNYIAKENG PUACHUE HMONG DIGIT ZEROe ONEe TWOe THREEe FOURe FIVEe SIXe SEVENe EIGHT",
      "e NINE"]⟩,
    ⟨0x1E14E, ["aNYIAKENG PUACHUE HMONG LOGOGRAM NYAJd CIRCLED CA"]⟩,
    ⟨0x1E290, ["aTOTO LETTER PAc BAc TAc DAc KAc GAc MAc NAc NGAc SAc CHAc YAc WAc JAc HAc RAc LA",
      "c Ic BREATHY Ic IUc BREATHY IUc Uc Ec BREATHY Ec EOc BREATHY EOc Oc AEc BREATHY AEc A",
      "b SIGN RISING TONE"]⟩,
    ⟨0x1E2C0, ["aWANCHO LETTER AAc Ac BAc CAc DAc GAc YAc PHAc LAc NAc PAc TAc THAc FAc SAc SHA",
      "c JAc ZAc WAc VAc KAc Oc AUc RAc MAc KHAc HAc Ec Ic NGAc Uc LLHAc TSAc TRAc ONGc AANGc ANG",
      "c INGc ONc ENc AANc NYAc UENc YIHb TONE TUPc TUPNIc KOIc KOINIb DIGIT ZEROc ONEc TWOc THREE",
      "c FOURc FIVEc SIXc SEVENc EIGHTc NINE"]⟩,
    ⟨0x1E2FF, ["aWANCHO NGUN SIGN"]⟩,
    ⟨0x1E7E0, ["aETHIOPIC SYLLABLE HHYAc HHYUc HHYIc HHYAAc HHYEEc HHYEc HHYO"]⟩,
    ⟨0x1E7E8, ["aETHIOPIC SYLLABLE GURAGE HHWAc HHWIc HHWEEc HHWE"]⟩,
    ⟨0x1E7ED, ["aETHIOPIC SYLLABLE GURAGE MWId MWEE"]⟩,
    ⟨0x1E7F0, ["aETHIOPIC SYLLABLE GURAGE QWId QWEEd QWEd BWId BWEEd KWId KWEEd KWEd GWId GWEE",
      "d GWEd FWId FWEEd PWId PWEE"]⟩,
    ⟨0x1E800, ["aMENDE KIKAKUI SYLLABLE M001 KId M002 KAd M003 KUd M065 KEEd M095 KEd M076 KOO",
      "d M048 KOd M179 KUAd M004 WId M005 WAd M006 WUd M126 WEEd M118 WEd M114 WOOd M045 WO",
      "d M194 WUId M143 WEId M061 WVId M049 WVAd M139 WVEd M007 MINd M008 MANd M009 MUNd M059 MEN",
      "d M094 MONd M154 MUANd M189 MUENd M010 BId M011 BAd M012 BUd M150 BEEd M097 BEd M103 BOO",
      "d M138 BOd M013 Id M014 Ad M015 Ud M163 EEd M100 Ed M165 OOd M147 Od M137 EId M131 IN",
      "d M135 INd M195 ANd M178 ENd M019 SId M020 SAd M021 SUd M162 SEEd M116 SEd M136 SOO",
      "d M079 SOd M196 SIAd M025 LId M026 LAd M027 LUd M084 LEEd M073 LEd M054 LOOd M153 LO",
      "d M110 LONG LEd M016 DId M017 DAd M018 DUd M089 DEEd M180 DOOd M181 DOd M022 TId M023 TA",
      "d M024 TUd M091 TEEd M055 TEd M104 TOOd M069 TOd M028 JId M029 JAd M030 JUd M157 JEE",
      "d M113 JEd M160 JOOd M063 JOd M175 LONG JOd M031 YId M032 YAd M033 YUd M109 YEEd M080 YE",
      "d M141 YOOd M121 YOd M034 FId M035 FAd M036 FUd M078 FEEd M075 FEd M133 FOOd M088 FO",
      "d M197 FUAd M101 FANd M037 NINd M038 NANd M039 NUNd M117 NENd M169 NONd M176 HId M041 HA",
      "d M186 HUd M040 HEEd M096 HEd M042 HOOd M140 HOd M083 HEEId M128 HOOUd M053 HINd M130 HAN",
      "d M087 HUNd M052 HENd M193 HONd M046 HUANd M090 NGGId M043 NGGAd M082 NGGUd M115 NGGEE",
      "d M146 NGGEd M156 NGGOOd M120 NGGOd M159 NGGAAd M127 NGGUAd M086 LONG NGGEd M106 LONG NGGOO",
      "d M183 LONG NGGOd M155 GId M111 GAd M168 GUd M190 GEEd M166 GUEId M167 GUANd M184 NGEN",
      "d M057 NGONd M177 NGUANd M068 PId M099 PAd M050 PUd M081 PEEd M051 PEd M102 POOd M066 PO",
      "d M145 MBId M062 MBAd M122 MBUd M047 MBEEd M188 MBEEd M072 MBEd M172 MBOOd M174 MBO",
      "d M187 MBUUd M161 LONG MBEd M105 LONG MBOOd M142 LONG MBOd M132 KPId M092 KPAd M074 KPU",
      "d M044 KPEEd M108 KPEd M112 KPOOd M158 KPOd M124 GBId M056 GBAd M148 GBUd M093 GBEE",
      "d M107 GBEd M071 GBOOd M070 GBOd M171 RAd M123 NDId M129 NDAd M125 NDUd M191 NDEEd M119 NDE",
      "d M067 NDOOd M064 NDOd M152 NJAd M192 NJUd M149 NJEEd M134 NJOOd M182 VId M185 VAd M151 VU",
      "d M173 VEEd M085 VEd M144 VOOd M077 VOd M164 NYINd M058 NYANd M170 NYUNd M098 NYEN",
      "d M060 NYON"]⟩,
    ⟨0x1E8C7, ["aMENDE KIKAKUI DIGIT ONEd TWOd THREEd FOURd FIVEd SIXd SEVENd EIGHTd NINE",
      "c COMBINING NUMBER TEENSe TENSe HUNDREDSe THOUSANDSe TEN THOUSANDSe HUNDRED THOUSANDS",
      "e MILLIONS"]⟩,
    ⟨0x1E900, ["aADLAM CAPITAL LETTER ALIFd DAALId LAAMd MIIMd BAd SINNYIIYHEd PEd BHEd RAd Ed FA",
      "d Id Od DHAd YHEd WAWd NUNd KAFd YAd Ud JIIMd CHId HAd QAAFd GAd NYAd TUd NHAd VAd KHAd GBE",
      "d ZALd KPOd SHAb SMALL LETTER ALIFd DAALId LAAMd MIIMd BAd SINNYIIYHEd PEd BHEd RAd Ed FA",
      "d Id Od DHAd YHEd WAWd NUNd KAFd YAd Ud JIIMd CHId HAd QAAFd GAd NYAd TUd NHAd VAd KHAd GBE",
      "d ZALd KPOd SHAb ALIF LENGTHENERb VOWEL LENGTHENERb GEMINATION MARKb HAMZA",
      "b CONSONANT MODIFIERb GEMINATE CONSONANT MODIFIERb NUKTAb NASALIZATION MARK"]⟩,
    ⟨0x1E950, ["aADLAM DIGIT ZEROc ONEc TWOc THREEc FOURc FIVEc SIXc SEVENc EIGHTc NINE"]⟩,
    ⟨0x1E95E, ["aADLAM INITIAL EXCLAMATION MARKc QUESTION MARK"]⟩,
    ⟨0x1EC71, ["aINDIC SIYAQ NUMBER ONEd TWOd THREEd FOURd FIVEd SIXd SEVENd EIGHTd NINEd TEN",
      "d TWENTYd THIRTYd FORTYd FIFTYd SIXTYd SEVENTYd EIGHTYd NINETYd ONE HUNDREDd TWO HUNDRED",
      "d THREE HUNDREDd FOUR HUNDREDd FIVE HUNDREDd SIX HUNDREDd SEVEN HUNDREDd EIGHT HUNDRED",
      "d NINE HUNDREDd ONE THOUSANDd TWO THOUSANDd THREE THOUSANDd FOUR THOUSANDd FIVE THOUSAND",
      "d SIX THOUSANDd SEVEN THOUSANDd EIGHT THOUSANDd NINE THOUSANDd TEN THOUSAND",
      "d TWENTY THOUSANDd THIRTY THOUSANDd FORTY THOUSANDd FIFTY THOUSANDd SIXTY THOUSAND",
      "d SEVENTY THOUSANDd EIGHTY THOUSANDd NINETY THOUSANDd LAKHd LAKHANc LAKH MARKc NUMBER KAROR",
      "d KARORANd PREFIXED ONEe TWOe THREEe FOURe FIVEe SIXe SEVENe EIGHTe NINEc PLACEHOLDER",
      "c FRACTION ONE QUARTERe HALFd THREE QUARTERSc RUPEE MARKc NUMBER ALTERNATE ONEe TWO",
      "e TEN THOUSANDc ALTERNATE LAKH MARK"]⟩,
    ⟨0x1ED01, ["aOTTOMAN SIYAQ NUMBER ONEd TWOd THREEd FOURd FIVEd SIXd SEVENd EIGHTd NINEd TEN",
      "d TWENTYd THIRTYd FORTYd FIFTYd SIXTYd SEVENTYd EIGHTYd NINETYd ONE HUNDREDd TWO HUNDRED",
      "d THREE HUNDREDd FOUR HUNDREDd FIVE HUNDREDd SIX HUNDREDd SEVEN HUNDREDd EIGHT HUNDRED",
      "d NINE HUNDREDd ONE THOUSANDd TWO THOUSANDd THREE THOUSANDd FOUR THOUSANDd FIVE THOUSAND",
      "d SIX THOUSANDd SEVEN THOUSANDd EIGHT THOUSANDd NINE THOUSANDd TEN THOUSAND",
      "d TWENTY THOUSANDd THIRTY THOUSANDd FORTY THOUSANDd FIFTY THOUSANDd SIXTY THOUSAND",
      "d SEVENTY THOUSANDd EIGHTY THOUSANDd NINETY THOUSANDc MARRATANc ALTERNATE NUMBER TWOe THREE",
      "e FOURe FIVEe SIXe SEVENe EIGHTe NINEe TENe FOUR HUNDREDe SIX HUNDREDe TWO THOUSAND",
      "e TEN THOUSANDc FRACTION ONE HALFe SIXTH"]⟩,
    ⟨0x1EE00, ["aARABIC MATHEMATICAL ALEFc BEHc JEEMc DAL"]⟩,
    ⟨0x1EE05, ["aARABIC MATHEMATICAL WAWc ZAINc HAHc TAHc YEHc KAFc LAMc MEEMc NOONc SEENc AIN",
      "c FEHc SADc QAFc REHc SHEENc TEHc THEHc KHAHc THALc DADc ZAHc GHAINc DOTLESS BEHd NOONd FEH",
      "d QAF"]⟩,
    ⟨0x1EE21, ["aARABIC MATHEMATICAL INITIAL BEHd JEEM"]⟩,
    ⟨0x1EE24, ["aARABIC MATHEMATICAL INITIAL HEH"]⟩,
    ⟨0x1EE27, ["aARABIC MATHEMATICAL INITIAL HAH"]⟩,
    ⟨0x1EE29, ["aARABIC MATHEMATICAL INITIAL YEHd KAFd LAMd MEEMd NOONd SEENd AINd FEHd SADd QAF"]⟩,
    ⟨0x1EE34, ["aARABIC MATHEMATICAL INITIAL SHEENd TEHd THEHd KHAH"]⟩,
    ⟨0x1EE39, ["aARABIC MATHEMATICAL INITIAL DAD"]⟩,
    ⟨0x1EE3B, ["aARABIC MATHEMATICAL INITIAL GHAIN"]⟩,
    ⟨0x1EE42, ["aARABIC MATHEMATICAL TAILED JEEM"]⟩,
    ⟨0x1EE47, ["aARABIC MATHEMATICAL TAILED HAH"]⟩,
    ⟨0x1EE49, ["aARABIC MATHEMATICAL TAILED YEH"]⟩,
    ⟨0x1EE4B, ["aARABIC MATHEMATICAL TAILED LAM"]⟩,
    ⟨0x1EE4D, ["aARABIC MATHEMATICAL TAILED NOONd SEENd AIN"]⟩,
    ⟨0x1EE51, ["aARABIC MATHEMATICAL TAILED SADd QAF"]⟩,
    ⟨0x1EE54, ["aARABIC MATHEMATICAL TAILED SHEEN"]⟩,
    ⟨0x1EE57, ["aARABIC MATHEMATICAL TAILED KHAH"]⟩,
    ⟨0x1EE59, ["aARABIC MATHEMATICAL TAILED DAD"]⟩,
    ⟨0x1EE5B, ["aARABIC MATHEMATICAL TAILED GHAIN"]⟩,
    ⟨0x1EE5D, ["aARABIC MATHEMATICAL TAILED DOTLESS NOON"]⟩,
    ⟨0x1EE5F, ["aARABIC MATHEMATICAL TAILED DOTLESS QAF"]⟩,
    ⟨0x1EE61, ["aARABIC MATHEMATICAL STRETCHED BEHd JEEM"]⟩,
    ⟨0x1EE64, ["aARABIC MATHEMATICAL STRETCHED HEH"]⟩,
    ⟨0x1EE67, ["aARABIC MATHEMATICAL STRETCHED HAHd TAHd YEHd KAF"]⟩,
    ⟨0x1EE6C, ["aARABIC MATHEMATICAL STRETCHED MEEMd NOONd SEENd AINd FEHd SADd QAF"]⟩,
    ⟨0x1EE74, ["aARABIC MATHEMATICAL STRETCHED SHEENd TEHd THEHd KHAH"]⟩,
    ⟨0x1EE79, ["aARABIC MATHEMATICAL STRETCHED DADd ZAHd GHAINd DOTLESS BEH"]⟩,
    ⟨0x1EE7E, ["aARABIC MATHEMATICAL STRETCHED DOTLESS FEH"]⟩,
    ⟨0x1EE80, ["aARABIC MATHEMATICAL LOOPED ALEFd BEHd JEEMd DALd HEHd WAWd ZAINd HAHd TAHd YEH"]⟩,
    ⟨0x1EE8B, ["aARABIC MATHEMATICAL LOOPED LAMd MEEMd NOONd SEENd AINd FEHd SADd QAFd REHd SHEEN",
      "d TEHd THEHd KHAHd THALd DADd ZAHd GHAIN"]⟩,
    ⟨0x1EEA1, ["aARABIC MATHEMATICAL DOUBLE-STRUCK BEHe JEEMe DAL"]⟩,
    ⟨0x1EEA5, ["aARABIC MATHEMATICAL DOUBLE-STRUCK WAWe ZAINe HAHe TAHe YEH"]⟩,
    ⟨0x1EEAB, ["aARABIC MATHEMATICAL DOUBLE-STRUCK LAMe MEEMe NOONe SEENe AINe FEHe SADe QAFe REH",
      "e SHEENe TEHe THEHe KHAHe THALe DADe ZAHe GHAIN"]⟩,
    ⟨0x1EEF0, ["aARABIC MATHEMATICAL OPERATOR MEEM WITH HAH WITH TATWEELd HAH WITH DAL"]⟩,
    ⟨0x1F000, ["aMAHJONG TILE EAST WINDc SOUTH WINDc WEST WINDc NORTH WINDc RED DRAGON",
      "c GREEN DRAGONc WHITE DRAGONc ONE OF CHARACTERSc TWO OF CHARACTERSc THREE OF CHARACTERS",
      "c FOUR OF CHARACTERSc FIVE OF CHARACTERSc SIX OF CHARACTERSc SEVEN OF CHARACTERS",
      "c EIGHT OF CHARACTERSc NINE OF CHARACTERSc ONE OF BAMBOOSc TWO OF BAMBOOSc THREE OF BAMBOOS",
      "c FOUR OF BAMBOOSc FIVE OF BAMBOOSc SIX OF BAMBOOSc SEVEN OF BAMBOOSc EIGHT OF BAMBOOS",
      "c NINE OF BAMBOOSc ONE OF CIRCLESc TWO OF CIRCLESc THREE OF CIRCLESc FOUR OF CIRCLES",
      "c FIVE OF CIRCLESc SIX OF CIRCLESc SEVEN OF CIRCLESc EIGHT OF CIRCLESc NINE OF CIRCLES",
      "c PLUMc ORCHIDc BAMBOOc CHRYSANTHEMUMc SPRINGc SUMMERc AUTUMNc WINTERc JOKERc BACK"]⟩,
    ⟨0x1F030, ["aDOMINO TILE HORIZONTAL BACKd-00-00e-01e-02e-03e-04e-05e-06d-01-00e-01e-02e-03e-04",
      "e-05e-06d-02-00e-01e-02e-03e-04e-05e-06d-03-00e-01e-02e-03e-04e-05e-06d-04-00e-01e-02e-03",
      "e-04e-05e-06d-05-00e-01e-02e-03e-04e-05e-06d-06-00e-01e-02e-03e-04e-05e-06c VERTICAL BACK",
      "d-00-00e-01e-02e-03e-04e-05e-06d-01-00e-01e-02e-03e-04e-05e-06d-02-00e-01e-02e-03e-04e-05",
      "e-06d-03-00e-01e-02e-03e-04e-05e-06d-04-00e-01e-02e-03e-04e-05e-06d-05-00e-01e-02e-03e-04",
      "e-05e-06d-06-00e-01e-02e-03e-04e-05e-06"]⟩,
    ⟨0x1F0A0, ["aPLAYING CARD BACKc ACE OF SPADESc TWO OF SPADESc THREE OF SPADESc FOUR OF SPADES",
      "c FIVE OF SPADESc SIX OF SPADESc SEVEN OF SPADESc EIGHT OF SPADESc NINE OF SPADES",
      "c TEN OF SPADESc JACK OF SPADESc KNIGHT OF SPADESc QUEEN OF SPADESc KING OF SPADES"]⟩,
    ⟨0x1F0B1, ["aPLAYING CARD ACE OF HEARTSc TWO OF HEARTSc THREE OF HEARTSc FOUR OF HEARTS",
      "c FIVE OF HEARTSc SIX OF HEARTSc SEVEN OF HEARTSc EIGHT OF HEARTSc NINE OF HEARTS",
      "c TEN OF HEARTSc JACK OF HEARTSc KNIGHT OF HEARTSc QUEEN OF HEARTSc KING OF HEARTS",
      "c RED JOKER"]⟩,
    ⟨0x1F0C1, ["aPLAYING CARD ACE OF DIAMONDSc TWO OF DIAMONDSc THREE OF DIAMONDS",
      "c FOUR OF DIAMONDSc FIVE OF DIAMONDSc SIX OF DIAMONDSc SEVEN OF DIAMONDSc EIGHT OF DIAMONDS",
      "c NINE OF DIAMONDSc TEN OF DIAMONDSc JACK OF DIAMONDSc KNIGHT OF DIAMONDS",
      "c QUEEN OF DIAMONDSc KING OF DIAMONDSc BLACK JOKER"]⟩,
    ⟨0x1F0D1, ["aPLAYING CARD ACE OF CLUBSc TWO OF CLUBSc THREE OF CLUBSc FOUR OF CLUBS",
      "c FIVE OF CLUBSc SIX OF CLUBSc SEVEN OF CLUBSc EIGHT OF CLUBSc NINE OF CLUBSc TEN OF CLUBS",
      "c JACK OF CLUBSc KNIGHT OF CLUBSc QUEEN OF CLUBSc KING OF CLUBSc WHITE JOKERc FOOLc TRUMP-1",
      "d-2d-3d-4d-5d-6d-7d-8d-9d-10d-11d-12d-13d-14d-15d-16d-17d-18d-19d-20d-21"]⟩,
    ⟨0x1F100, ["aDIGIT ZERO FULL STOPc COMMAb ONE COMMAb TWO COMMAb THREE COMMAb FOUR COMMA",
      "b FIVE COMMAb SIX COMMAb SEVEN COMMAb EIGHT COMMAb NINE COMMA",
      "aDINGBAT CIRCLED SANS-SERIF DIGIT ZEROb NEGATIVE CIRCLED SANS-SERIF DIGIT ZERO",
      "aCIRCLED ZERO WITH SLASHb ANTICLOCKWISE ARROWb DOLLAR SIGN WITH OVERLAID BACKSLASH",
      "aPARENTHESIZED LATIN CAPITAL LETTER Ae Be Ce De Ee Fe Ge He Ie Je Ke Le Me Ne Oe Pe Qe Re S",
      "e Te Ue Ve We Xe Ye ZaTORTOISE SHELL BRACKETED LATIN CAPITAL LETTER S",
      "aCIRCLED ITALIC LATIN CAPITAL LETTER Cf Rb CDb WZaCOPYLEFT SYMBOL",
      "aSQUARED LATIN CAPITAL LETTER Ae Be Ce De Ee Fe Ge He Ie Je Ke Le Me Ne Oe Pe Qe Re Se Te U",
      "e Ve We Xe Ye Zb HVb MVb SDb SSb PPVb WCaNEGATIVE CIRCLED LATIN CAPITAL LETTER Af Bf Cf D",
      "f Ef Ff Gf Hf If Jf Kf Lf Mf Nf Of Pf Qf Rf Sf Tf Uf Vf Wf Xf Yf ZaRAISED MC SIGNb MD SIGN",
      "b MR SIGNaCIRCLED CCb C WITH OVERLAID BACKSLASHb HUMAN FIGURE",
      "aNEGATIVE SQUARED LATIN CAPITAL LETTER Af Bf Cf Df Ef Ff Gf Hf If Jf Kf Lf Mf Nf Of Pf Qf R",
      "f Sf Tf Uf Vf Wf Xf Yf ZaCROSSED NEGATIVE SQUARED LATIN CAPITAL LETTER P",
      "aNEGATIVE SQUARED ICc PAc SAc ABc WCaSQUARE DJaSQUARED CLb COOLb FREEb IDb NEWb NGb OKb SOS",
      "b UP WITH EXCLAMATION MARKb VSb THREE Db SECOND SCREENb TWO Kb FOUR Kb EIGHT K",
      "b FIVE POINT ONEb SEVEN POINT ONEb TWENTY-TWO POINT TWOb SIXTY Pb ONE HUNDRED TWENTY P",
      "b LATIN SMALL LETTER Db HCb HDRb HI-RESb LOSSLESSb SHVb UHDb VODaMASK WORK SYMBOL"]⟩,
    ⟨0x1F1E6, ["aREGIONAL INDICATOR SYMBOL LETTER Ae Be Ce De Ee Fe Ge He Ie Je Ke Le Me Ne Oe P",
      "e Qe Re Se Te Ue Ve We Xe Ye ZaSQUARE HIRAGANA HOKAaSQUARED KATAKANA KOKOc SA"]⟩,
    ⟨0x1F210, ["aSQUARED CJK UNIFIED IDEOGRAPH-624Be-5B57e-53CCb KATAKANA DE",
      "b CJK UNIFIED IDEOGRAPH-4E8Ce-591Ae-89E3e-5929e-4EA4e-6620e-7121e-6599e-524De-5F8Ce-518D",
      "e-65B0e-521De-7D42e-751Fe-8CA9e-58F0e-5439e-6F14e-6295e-6355e-4E00e-4E09e-904Ae-5DE6e-4E2D",
      "e-53F3e-6307e-8D70e-6253e-7981e-7A7Ae-5408e-6E80e-6709e-6708e-7533e-5272e-55B6e-914D"]⟩,
    ⟨0x1F240, ["aTORTOISE SHELL BRACKETED CJK UNIFIED IDEOGRAPH-672Cg-4E09g-4E8Cg-5B89g-70B9g-6253",
      "g-76D7g-52DDg-6557"]⟩,
    ⟨0x1F250, ["aCIRCLED IDEOGRAPH ADVANTAGEc ACCEPT"]⟩,
    ⟨0x1F260, ["aROUNDED SYMBOL FOR FUd LUd SHOUd XId SHUANGXId CAI"]⟩,
    ⟨0x1F300, ["aCYCLONEaFOGGYaCLOSED UMBRELLAaNIGHT WITH STARSaSUNRISE OVER MOUNTAINSb",
      "aCITYSCAPE AT DUSKaSUNSET OVER BUILDINGSaRAINBOWaBRIDGE AT NIGHTaWATER WAVEaVOLCANO",
      "aMILKY WAYaEARTH GLOBE EUROPE-AFRICAc AMERICASc ASIA-AUSTRALIAaGLOBE WITH MERIDIANS",
      "aNEW MOON SYMBOLaWAXING CRESCENT MOON SYMBOLaFIRST QUARTER MOON SYMBOL",
      "aWAXING GIBBOUS MOON SYMBOLaFULL MOON SYMBOLaWANING GIBBOUS MOON SYMBOL",
      "aLAST QUARTER MOON SYMBOLaWANING CRESCENT MOON SYMBOLaCRESCENT MOONaNEW MOON WITH FACE",
      "aFIRST QUARTER MOON WITH FACEaLAST QUARTER MOON WITH FACEaFULL MOON WITH FACEaSUN WITH FACE",
      "aGLOWING STARaSHOOTING STARaTHERMOMETERaBLACK DROPLETaWHITE SUNc WITH SMALL CLOUD",
      "c BEHIND CLOUDe WITH RAINaCLOUD WITH RAINc SNOWc LIGHTNINGc TORNADOaFOGaWIND BLOWING FACE",
      "aHOT DOGaTACOaBURRITOaCHESTNUTaSEEDLINGaEVERGREEN TREEaDECIDUOUS TREEaPALM TREEaCACTUS",
      "aHOT PEPPERaTULIPaCHERRY BLOSSOMaROSEaHIBISCUSaSUNFLOWERaBLOSSOMaEAR OF MAIZEc RICEaHERB",
      "aFOUR LEAF CLOVERaMAPLE LEAFaFALLEN LEAFaLEAF FLUTTERING IN WINDaMUSHROOMaTOMATOaAUBERGINE",
      "aGRAPESaMELONaWATERMELONaTANGERINEaLEMONaBANANAaPINEAPPLEaRED APPLEaGREEN APPLEaPEARaPEACH",
      "aCHERRIESaSTRAWBERRYaHAMBURGERaSLICE OF PIZZAaMEAT ON BONEaPOULTRY LEGaRICE CRACKERb BALL",
      "aCOOKED RICEaCURRY AND RICEaSTEAMING BOWLaSPAGHETTIaBREADaFRENCH FRIESaROASTED SWEET POTATO",
      "aDANGOaODENaSUSHIaFRIED SHRIMPaFISH CAKE WITH SWIRL DESIGNaSOFT ICE CREAMaSHAVED ICE",
      "aICE CREAMaDOUGHNUTaCOOKIEaCHOCOLATE BARaCANDYaLOLLIPOPaCUSTARDaHONEY POTaSHORTCAKE",
      "aBENTO BOXaPOT OF FOODaCOOKINGaFORK AND KNIFEaTEACUP WITHOUT HANDLEaSAKE BOTTLE AND CUP",
      "aWINE GLASSaCOCKTAIL GLASSaTROPICAL DRINKaBEER MUGaCLINKING BEER MUGSaBABY BOTTLE",
      "aFORK AND KNIFE WITH PLATEaBOTTLE WITH POPPING CORKaPOPCORNaRIBBONaWRAPPED PRESENT",
      "aBIRTHDAY CAKEaJACK-O-LANTERNaCHRISTMAS TREEaFATHER CHRISTMASaFIREWORKSaFIREWORK SPARKLER",
      "aBALLOONaPARTY POPPERaCONFETTI BALLaTANABATA TREEaCROSSED FLAGSaPINE DECORATION",
      "aJAPANESE DOLLSaCARP STREAMERaWIND CHIMEaMOON VIEWING CEREMONYaSCHOOL SATCHEL",
      "aGRADUATION CAPaHEART WITH TIP ON THE LEFTaBOUQUET OF FLOWERSaMILITARY MEDAL",
      "aREMINDER RIBBONaMUSICAL KEYBOARD WITH JACKSaSTUDIO MICROPHONEaLEVEL SLIDERaCONTROL KNOBS",
      "aBEAMED ASCENDING MUSICAL NOTESb DESCENDING MUSICAL NOTESaFILM FRAMESaADMISSION TICKETS",
      "aCAROUSEL HORSEaFERRIS WHEELaROLLER COASTERaFISHING POLE AND FISHaMICROPHONEaMOVIE CAMERA",
      "aCINEMAaHEADPHONEaARTIST PALETTEaTOP HATaCIRCUS TENTaTICKETaCLAPPER BOARDaPERFORMING ARTS",
      "aVIDEO GAMEaDIRECT HITaSLOT MACHINEaBILLIARDSaGAME DIEaBOWLINGaFLOWER PLAYING CARDS",
      "aMUSICAL NOTEaMULTIPLE MUSICAL NOTESaSAXOPHONEaGUITARaMUSICAL KEYBOARDaTRUMPETaVIOLIN",
      "aMUSICAL SCOREaRUNNING SHIRT WITH SASHaTENNIS RACQUET AND BALLaSKI AND SKI BOOT",
      "aBASKETBALL AND HOOPaCHEQUERED FLAGaSNOWBOARDERaRUNNERaSURFERaSPORTS MEDALaTROPHY",
      "aHORSE RACINGaAMERICAN FOOTBALLaRUGBY FOOTBALLaSWIMMERaWEIGHT LIFTERaGOLFER",
      "aRACING MOTORCYCLEb CARaCRICKET BAT AND BALLaVOLLEYBALLaFIELD HOCKEY STICK AND BALL",
      "aICE HOCKEY STICK AND PUCKaTABLE TENNIS PADDLE AND BALLaSNOW CAPPED MOUNTAINaCAMPING",
      "aBEACH WITH UMBRELLAaBUILDING CONSTRUCTIONaHOUSE BUILDINGSaCITYSCAPE",
      "aDERELICT HOUSE BUILDINGaCLASSICAL BUILDINGaDESERTb ISLANDaNATIONAL PARKaSTADIUM",
      "aHOUSE BUILDINGb WITH GARDENaOFFICE BUILDINGaJAPANESE POST OFFICEaEUROPEAN POST OFFICE",
      "aHOSPITALaBANKaAUTOMATED TELLER MACHINEaHOTELaLOVE HOTELaCONVENIENCE STOREaSCHOOL",
      "aDEPARTMENT STOREaFACTORYaIZAKAYA LANTERNaJAPANESE CASTLEaEUROPEAN CASTLEaWHITE PENNANT",
      "aBLACK PENNANTaWAVING WHITE FLAGb BLACK FLAGaROSETTEaBLACK ROSETTEaLABEL",
      "aBADMINTON RACQUET AND SHUTTLECOCKaBOW AND ARROWaAMPHORA",
      "aEMOJI MODIFIER FITZPATRICK TYPE-1-2e-3e-4e-5e-6aRATaMOUSEaOXaWATER BUFFALOaCOWaTIGER",
      "aLEOPARDaRABBITaCATaDRAGONaCROCODILEaWHALEaSNAILaSNAKEaHORSEaRAMaGOATaSHEEPaMONKEYaROOSTER",
      "aCHICKENaDOGaPIGaBOARaELEPHANTaOCTOPUSaSPIRAL SHELLaBUGaANTaHONEYBEEaLADY BEETLEaFISH",
      "aTROPICAL FISHaBLOWFISHaTURTLEaHATCHING CHICKaBABY CHICKaFRONT-FACING BABY CHICKaBIRD",
      "aPENGUINaKOALAaPOODLEaDROMEDARY CAMELaBACTRIAN CAMELaDOLPHINaMOUSE FACEaCOW FACEaTIGER FACE",
      "aRABBIT FACEaCAT FACEaDRAGON FACEaSPOUTING WHALEaHORSE FACEaMONKEY FACEaDOG FACEaPIG FACE",
      "aFROG FACEaHAMSTER FACEaWOLF FACEaBEAR FACEaPANDA FACEaPIG NOSEaPAW PRINTSaCHIPMUNKaEYES",
      "aEYEaEARaNOSEaMOUTHaTONGUEaWHITE UP POINTING BACKHAND INDEXb DOWN POINTING BACKHAND INDEX",
      "b LEFT POINTING BACKHAND INDEXb RIGHT POINTING BACKHAND INDEXaFISTED HAND SIGN",
      "aWAVING HAND SIGNaOK HAND SIGNaTHUMBS UP SIGNb DOWN SIGNaCLAPPING HANDS SIGN",
      "aOPEN HANDS SIGNaCROWNaWOMANS HATaEYEGLASSESaNECKTIEaT-SHIRTaJEANSaDRESSaKIMONOaBIKINI",
      "aWOMANS CLOTHESaPURSEaHANDBAGaPOUCHaMANS SHOEaATHLETIC SHOEaHIGH-HEELED SHOEaWOMANS SANDAL",
      "b BOOTSaFOOTPRINTSaBUST IN SILHOUETTEaBUSTS IN SILHOUETTEaBOYaGIRLaMANaWOMANaFAMILY",
      "aMAN AND WOMAN HOLDING HANDSaTWO MEN HOLDING HANDSb WOMEN HOLDING HANDSaPOLICE OFFICER",
      "aWOMAN WITH BUNNY EARSaBRIDE WITH VEILaPERSON WITH BLOND HAIRaMAN WITH GUA PI MAOc TURBAN",
      "aOLDER MANb WOMANaBABYaCONSTRUCTION WORKERaPRINCESSaJAPANESE OGREb GOBLINaGHOSTaBABY ANGEL",
      "aEXTRATERRESTRIAL ALIENaALIEN MONSTERaIMPaSKULLaINFORMATION DESK PERSONaGUARDSMANaDANCER",
      "aLIPSTICKaNAIL POLISHaFACE MASSAGEaHAIRCUTaBARBER POLEaSYRINGEaPILLaKISS MARKaLOVE LETTER",
      "aRINGaGEM STONEaKISSaBOUQUETaCOUPLE WITH HEARTaWEDDINGaBEATING HEARTaBROKEN HEART",
      "aTWO HEARTSaSPARKLING HEARTaGROWING HEARTaHEART WITH ARROWaBLUE HEARTaGREEN HEART",
      "aYELLOW HEARTaPURPLE HEARTaHEART WITH RIBBONaREVOLVING HEARTSaHEART DECORATION",
      "aDIAMOND SHAPE WITH A DOT INSIDEaELECTRIC LIGHT BULBaANGER SYMBOLaBOMBaSLEEPING SYMBOL",
      "aCOLLISION SYMBOLaSPLASHING SWEAT SYMBOLaDROPLETaDASH SYMBOLaPILE OF POOaFLEXED BICEPS",
      "aDIZZY SYMBOLaSPEECH BALLOONaTHOUGHT BALLOONaWHITE FLOWERaHUNDRED POINTS SYMBOLaMONEY BAG",
      "aCURRENCY EXCHANGEaHEAVY DOLLAR SIGNaCREDIT CARDaBANKNOTE WITH YEN SIGNc DOLLAR SIGN",
      "c EURO SIGNc POUND SIGNaMONEY WITH WINGSaCHART WITH UPWARDS TREND AND YEN SIGNaSEAT",
      "aPERSONAL COMPUTERaBRIEFCASEaMINIDISCaFLOPPY DISKaOPTICAL DISCaDVDaFILE FOLDER",
      "aOPEN FILE FOLDERaPAGE WITH CURLb FACING UPaCALENDARaTEAR-OFF CALENDARaCARD INDEX",
      "aCHART WITH UPWARDS TRENDc DOWNWARDS TRENDaBAR CHARTaCLIPBOARDaPUSHPINaROUND PUSHPIN",
      "aPAPERCLIPaSTRAIGHT RULERaTRIANGULAR RULERaBOOKMARK TABSaLEDGERaNOTEBOOK",
      "b WITH DECORATIVE COVERaCLOSED BOOKaOPEN BOOKaGREEN BOOKaBLUE BOOKaORANGE BOOKaBOOKS",
      "aNAME BADGEaSCROLLaMEMOaTELEPHONE RECEIVERaPAGERaFAX MACHINEaSATELLITE ANTENNA",
      "aPUBLIC ADDRESS LOUDSPEAKERaCHEERING MEGAPHONEaOUTBOX TRAYaINBOX TRAYaPACKAGEaE-MAIL SYMBOL",
      "aINCOMING ENVELOPEaENVELOPE WITH DOWNWARDS ARROW ABOVEaCLOSED MAILBOX WITH LOWERED FLAG",
      "d RAISED FLAGaOPEN MAILBOX WITH RAISED FLAGd LOWERED FLAGaPOSTBOXaPOSTAL HORNaNEWSPAPER",
      "aMOBILE PHONEc WITH RIGHTWARDS ARROW AT LEFTaVIBRATION MODEaMOBILE PHONE OFF",
      "aNO MOBILE PHONESaANTENNA WITH BARSaCAMERAb WITH FLASHaVIDEO CAMERAaTELEVISIONaRADIO",
      "aVIDEOCASSETTEaFILM PROJECTORaPORTABLE STEREOaPRAYER BEADSaTWISTED RIGHTWARDS ARROWS",
      "aCLOCKWISE RIGHTWARDS AND LEFTWARDS OPEN CIRCLE ARROWSh WITH CIRCLED ONE OVERLAY",
      "b DOWNWARDS AND UPWARDS OPEN CIRCLE ARROWS",
      "aANTICLOCKWISE DOWNWARDS AND UPWARDS OPEN CIRCLE ARROWSaLOW BRIGHTNESS SYMBOL",
      "aHIGH BRIGHTNESS SYMBOLaSPEAKER WITH CANCELLATION STROKEbb WITH ONE SOUND WAVE",
      "c THREE SOUND WAVESaBATTERYaELECTRIC PLUGaLEFT-POINTING MAGNIFYING GLASS",
      "aRIGHT-POINTING MAGNIFYING GLASSaLOCK WITH INK PENaCLOSED LOCK WITH KEYaKEYaLOCKaOPEN LOCK",
      "aBELLb WITH CANCELLATION STROKEaBOOKMARKaLINK SYMBOLaRADIO BUTTON",
      "aBACK WITH LEFTWARDS ARROW ABOVEaEND WITH LEFTWARDS ARROW ABOVE",
      "aON WITH EXCLAMATION MARK WITH LEFT RIGHT ARROW ABOVEaSOON WITH RIGHTWARDS ARROW ABOVE",
      "aTOP WITH UPWARDS ARROW ABOVEaNO ONE UNDER EIGHTEEN SYMBOLaKEYCAP TEN",
      "aINPUT SYMBOL FOR LATIN CAPITAL LETTERSe SMALL LETTERSd NUMBERSd SYMBOLSd LATIN LETTERS",
      "aFIREaELECTRIC TORCHaWRENCHaHAMMERaNUT AND BOLTaHOCHOaPISTOLaMICROSCOPEaTELESCOPE",
      "aCRYSTAL BALLaSIX POINTED STAR WITH MIDDLE DOTaJAPANESE SYMBOL FOR BEGINNERaTRIDENT EMBLEM",
      "aBLACK SQUARE BUTTONaWHITE SQUARE BUTTONaLARGE RED CIRCLEb BLUE CIRCLEb ORANGE DIAMOND",
      "b BLUE DIAMONDaSMALL ORANGE DIAMONDb BLUE DIAMONDaUP-POINTING RED TRIANGLE",
      "aDOWN-POINTING RED TRIANGLEaUP-POINTING SMALL RED TRIANGLEaDOWN-POINTING SMALL RED TRIANGLE",
      "aLOWER RIGHT SHADOWED WHITE CIRCLEaUPPER RIGHT SHADOWED WHITE CIRCLEaCIRCLED CROSS POMMEE",
      "aCROSS POMMEE WITH HALF-CIRCLE BELOWcaNOTCHED LEFT SEMICIRCLE WITH THREE DOTS",
      "b RIGHT SEMICIRCLE WITH THREE DOTSaSYMBOL FOR MARKS CHAPTERaWHITE LATIN CROSS",
      "aHEAVY LATIN CROSSaCELTIC CROSSaOM SYMBOLaDOVE OF PEACEaKAABAaMOSQUEaSYNAGOGUE",
      "aMENORAH WITH NINE BRANCHESaBOWL OF HYGIEIAaCLOCK FACE ONE OCLOCKc TWO OCLOCKc THREE OCLOCK",
      "c FOUR OCLOCKc FIVE OCLOCKc SIX OCLOCKc SEVEN OCLOCKc EIGHT OCLOCKc NINE OCLOCKc TEN OCLOCK",
      "c ELEVEN OCLOCKc TWELVE OCLOCKc ONE-THIRTYc TWO-THIRTYc THREE-THIRTYc FOUR-THIRTY",
      "c FIVE-THIRTYc SIX-THIRTYc SEVEN-THIRTYc EIGHT-THIRTYc NINE-THIRTYc TEN-THIRTY",
      "c ELEVEN-THIRTYc TWELVE-THIRTYaRIGHT SPEAKERc WITH ONE SOUND WAVEd THREE SOUND WAVES",
      "aBULLHORNb WITH SOUND WAVESaRINGING BELLaBOOKaCANDLEaMANTELPIECE CLOCK",
      "aBLACK SKULL AND CROSSBONESaNO PIRACYaHOLEaMAN IN BUSINESS SUIT LEVITATINGaSLEUTH OR SPY",
      "aDARK SUNGLASSESaSPIDERb WEBaJOYSTICKaMAN DANCINGaLEFT HAND TELEPHONE RECEIVER",
      "aTELEPHONE RECEIVER WITH PAGEaRIGHT HAND TELEPHONE RECEIVERaWHITE TOUCHTONE TELEPHONE",
      "aBLACK TOUCHTONE TELEPHONEaTELEPHONE ON TOP OF MODEMaCLAMSHELL MOBILE PHONE",
      "aBACK OF ENVELOPEaSTAMPED ENVELOPEaENVELOPE WITH LIGHTNINGaFLYING ENVELOPE",
      "aPEN OVER STAMPED ENVELOPEaLINKED PAPERCLIPSaBLACK PUSHPINaLOWER LEFT PENCILc BALLPOINT PEN",
      "c FOUNTAIN PENc PAINTBRUSHc CRAYONaLEFT WRITING HANDaTURNED OK HAND SIGN",
      "aRAISED HAND WITH FINGERS SPLAYEDaREVERSED RAISED HAND WITH FINGERS SPLAYEDb THUMBS UP SIGN",
      "c DOWN SIGNb VICTORY HANDb HAND WITH MIDDLE FINGER EXTENDED",
      "aRAISED HAND WITH PART BETWEEN MIDDLE AND RING FINGERSaWHITE DOWN POINTING LEFT HAND INDEX",
      "aSIDEWAYS WHITE LEFT POINTING INDEXc RIGHT POINTING INDEXb BLACK LEFT POINTING INDEX",
      "c RIGHT POINTING INDEXaBLACK LEFT POINTING BACKHAND INDEXb RIGHT POINTING BACKHAND INDEX",
      "aSIDEWAYS WHITE UP POINTING INDEXc DOWN POINTING INDEXb BLACK UP POINTING INDEX",
      "c DOWN POINTING INDEXaBLACK UP POINTING BACKHAND INDEXb DOWN POINTING BACKHAND INDEXb HEART",
      "aDESKTOP COMPUTERaKEYBOARD AND MOUSEaTHREE NETWORKED COMPUTERSaPRINTERaPOCKET CALCULATOR",
      "aBLACK HARD SHELL FLOPPY DISKaWHITE HARD SHELL FLOPPY DISKaSOFT SHELL FLOPPY DISK",
      "aTAPE CARTRIDGEaWIRED KEYBOARDaONE BUTTON MOUSEaTWO BUTTON MOUSEaTHREE BUTTON MOUSE",
      "aTRACKBALLaOLD PERSONAL COMPUTERaHARD DISKaSCREENaPRINTER ICONaFAX ICONaOPTICAL DISC ICON",
      "aDOCUMENT WITH TEXTd AND PICTUREc PICTUREaFRAME WITH PICTUREc TILESc AN XaBLACK FOLDER",
      "aFOLDERaOPEN FOLDERaCARD INDEX DIVIDERSb FILE BOXaFILE CABINETaEMPTY NOTEc PAGEc PADaNOTE",
      "b PAGEb PADaEMPTY DOCUMENTb PAGEb PAGESaDOCUMENTaPAGEaPAGESaWASTEBASKETaSPIRAL NOTE PAD",
      "b CALENDAR PADaDESKTOP WINDOWaMINIMIZEaMAXIMIZEaOVERLAP",
      "aCLOCKWISE RIGHT AND LEFT SEMICIRCLE ARROWSaCANCELLATION XaINCREASE FONT SIZE SYMBOL",
      "aDECREASE FONT SIZE SYMBOLaCOMPRESSIONaOLD KEYaROLLED-UP NEWSPAPERaPAGE WITH CIRCLED TEXT",
      "aSTOCK CHARTaDAGGER KNIFEaLIPSaSPEAKING HEAD IN SILHOUETTEaTHREE RAYS ABOVEc BELOWc LEFT",
      "c RIGHTaLEFT SPEECH BUBBLEaRIGHT SPEECH BUBBLEaTWO SPEECH BUBBLESaTHREE SPEECH BUBBLES",
      "aLEFT THOUGHT BUBBLEaRIGHT THOUGHT BUBBLEaLEFT ANGER BUBBLEaRIGHT ANGER BUBBLEaMOOD BUBBLE",
      "aLIGHTNING MOOD BUBBLEcaBALLOT BOX WITH BALLOTb SCRIPT Xb BOX WITH SCRIPT Xb BOLD SCRIPT X",
      "b BOX WITH BOLD SCRIPT XaLIGHT CHECK MARKaBALLOT BOX WITH BOLD CHECKaWORLD MAPaMOUNT FUJI",
      "aTOKYO TOWERaSTATUE OF LIBERTYaSILHOUETTE OF JAPANaMOYAIaGRINNING FACEc WITH SMILING EYES",
      "aFACE WITH TEARS OF JOYaSMILING FACE WITH OPEN MOUTHf AND SMILING EYESg COLD SWEAT",
      "g TIGHTLY-CLOSED EYESd HALOd HORNSaWINKING FACEaSMILING FACE WITH SMILING EYES",
      "aFACE SAVOURING DELICIOUS FOODaRELIEVED FACEaSMILING FACE WITH HEART-SHAPED EYES",
      "d SUNGLASSESaSMIRKING FACEaNEUTRAL FACEaEXPRESSIONLESS FACEaUNAMUSED FACE",
      "aFACE WITH COLD SWEATaPENSIVE FACEaCONFUSED FACEaCONFOUNDED FACEaKISSING FACE",
      "aFACE THROWING A KISSaKISSING FACE WITH SMILING EYESd CLOSED EYES",
      "aFACE WITH STUCK-OUT TONGUEf AND WINKING EYEg TIGHTLY-CLOSED EYESaDISAPPOINTED FACE",
      "aWORRIED FACEaANGRY FACEaPOUTING FACEaCRYING FACEaPERSEVERING FACE",
      "aFACE WITH LOOK OF TRIUMPHaDISAPPOINTED BUT RELIEVED FACEaFROWNING FACE WITH OPEN MOUTH",
      "aANGUISHED FACEaFEARFUL FACEaWEARY FACEaSLEEPY FACEaTIRED FACEaGRIMACING FACE",
      "aLOUDLY CRYING FACEaFACE WITH OPEN MOUTHaHUSHED FACEaFACE WITH OPEN MOUTH AND COLD SWEAT",
      "b SCREAMING IN FEARaASTONISHED FACEaFLUSHED FACEaSLEEPING FACEaDIZZY FACE",
      "aFACE WITHOUT MOUTHb WITH MEDICAL MASKaGRINNING CAT FACE WITH SMILING EYES",
      "aCAT FACE WITH TEARS OF JOYaSMILING CAT FACE WITH OPEN MOUTHe HEART-SHAPED EYES",
      "aCAT FACE WITH WRY SMILEaKISSING CAT FACE WITH CLOSED EYESaPOUTING CAT FACEaCRYING CAT FACE",
      "aWEARY CAT FACEaSLIGHTLY FROWNING FACEb SMILING FACEaUPSIDE-DOWN FACE",
      "aFACE WITH ROLLING EYESc NO GOOD GESTUREc OK GESTUREaPERSON BOWING DEEPLY",
      "aSEE-NO-EVIL MONKEYaHEAR-NO-EVIL MONKEYaSPEAK-NO-EVIL MONKEYaHAPPY PERSON RAISING ONE HAND",
      "aPERSON RAISING BOTH HANDS IN CELEBRATIONb FROWNINGb WITH POUTING FACEc FOLDED HANDS",
      "aNORTH WEST POINTING LEAFaSOUTH WEST POINTING LEAFaNORTH EAST POINTING LEAF",
      "aSOUTH EAST POINTING LEAFaTURNED NORTH WEST POINTING LEAFb SOUTH WEST POINTING LEAF",
      "b NORTH EAST POINTING LEAFb SOUTH EAST POINTING LEAFaNORTH WEST POINTING VINE LEAF",
      "aSOUTH WEST POINTING VINE LEAFaNORTH EAST POINTING VINE LEAFaSOUTH EAST POINTING VINE LEAF",
      "aHEAVY NORTH WEST POINTING VINE LEAFb SOUTH WEST POINTING VINE LEAF",
      "b NORTH EAST POINTING VINE LEAFb SOUTH EAST POINTING VINE LEAFaNORTH WEST POINTING BUD",
      "aSOUTH WEST POINTING BUDaNORTH EAST POINTING BUDaSOUTH EAST POINTING BUD",
      "aHEAVY NORTH WEST POINTING BUDb SOUTH WEST POINTING BUDb NORTH EAST POINTING BUD",
      "b SOUTH EAST POINTING BUDaHOLLOW QUILT SQUARE ORNAMENTe IN BLACK SQUARE",
      "aSOLID QUILT SQUARE ORNAMENTe IN BLACK SQUAREaLEFTWARDS ROCKETaUPWARDS ROCKET",
      "aRIGHTWARDS ROCKETaDOWNWARDS ROCKETaSCRIPT LIGATURE ET ORNAMENT",
      "aHEAVY SCRIPT LIGATURE ET ORNAMENTaLIGATURE OPEN ET ORNAMENT",
      "aHEAVY LIGATURE OPEN ET ORNAMENTb AMPERSAND ORNAMENTaSWASH AMPERSAND ORNAMENT",
      "aSANS-SERIF HEAVY DOUBLE TURNED COMMA QUOTATION MARK ORNAMENT",
      "e COMMA QUOTATION MARK ORNAMENTd LOW DOUBLE COMMA QUOTATION MARK ORNAMENT",
      "aHEAVY INTERROBANG ORNAMENTaSANS-SERIF INTERROBANG ORNAMENT",
      "aHEAVY SANS-SERIF INTERROBANG ORNAMENTaVERY HEAVY SOLIDUSc REVERSE SOLIDUSaCHECKER BOARD",
      "aREVERSE CHECKER BOARDaROCKETaHELICOPTERaSTEAM LOCOMOTIVEaRAILWAY CARaHIGH-SPEED TRAIN",
      "d WITH BULLET NOSEaTRAINaMETROaLIGHT RAILaSTATIONaTRAMb CARaBUSaONCOMING BUSaTROLLEYBUS",
      "aBUS STOPaMINIBUSaAMBULANCEaFIRE ENGINEaPOLICE CARaONCOMING POLICE CARaTAXIaONCOMING TAXI",
      "aAUTOMOBILEaONCOMING AUTOMOBILEaRECREATIONAL VEHICLEaDELIVERY TRUCKaARTICULATED LORRY",
      "aTRACTORaMONORAILaMOUNTAIN RAILWAYaSUSPENSION RAILWAYaMOUNTAIN CABLEWAYaAERIAL TRAMWAYaSHIP",
      "aROWBOATaSPEEDBOATaHORIZONTAL TRAFFIC LIGHTaVERTICAL TRAFFIC LIGHTaCONSTRUCTION SIGN",
      "aPOLICE CARS REVOLVING LIGHTaTRIANGULAR FLAG ON POSTaDOORaNO ENTRY SIGNaSMOKING SYMBOL",
      "aNO SMOKING SYMBOLaPUT LITTER IN ITS PLACE SYMBOLaDO NOT LITTER SYMBOLaPOTABLE WATER SYMBOL",
      "aNON-POTABLE WATER SYMBOLaBICYCLEaNO BICYCLESaBICYCLISTaMOUNTAIN BICYCLISTaPEDESTRIAN",
      "aNO PEDESTRIANSaCHILDREN CROSSINGaMENS SYMBOLaWOMENS SYMBOLaRESTROOMaBABY SYMBOLaTOILET",
      "aWATER CLOSETaSHOWERaBATHaBATHTUBaPASSPORT CONTROLaCUSTOMSaBAGGAGE CLAIMaLEFT LUGGAGE",
      "aTRIANGLE WITH ROUNDED CORNERSaPROHIBITED SIGNaCIRCLED INFORMATION SOURCEaBOYS SYMBOL",
      "aGIRLS SYMBOLaCOUCH AND LAMPaSLEEPING ACCOMMODATIONaSHOPPING BAGSaBELLHOP BELLaBED",
      "aPLACE OF WORSHIPaOCTAGONAL SIGNaSHOPPING TROLLEYaSTUPAaPAGODAaHINDU TEMPLEaHUTaELEVATOR"]⟩,
    ⟨0x1F6DD, ["aPLAYGROUND SLIDEaWHEELaRING BUOYaHAMMER AND WRENCHaSHIELDaOIL DRUMaMOTORWAY",
      "aRAILWAY TRACKaMOTOR BOATaUP-POINTING MILITARY AIRPLANEc AIRPLANEc SMALL AIRPLANE",
      "aSMALL AIRPLANEaNORTHEAST-POINTING AIRPLANEaAIRPLANE DEPARTUREb ARRIVING"]⟩,
    ⟨0x1F6F0, ["aSATELLITEaONCOMING FIRE ENGINEaDIESEL LOCOMOTIVEaPASSENGER SHIPaSCOOTER",
      "aMOTOR SCOOTERaCANOEaSLEDaFLYING SAUCERaSKATEBOARDaAUTO RICKSHAWaPICKUP TRUCK",
      "aROLLER SKATE"]⟩,
    ⟨0x1F700, ["aALCHEMICAL SYMBOL FOR QUINTESSENCEd AIRd FIREd EARTHd WATERd AQUAFORTIS",
      "d AQUA REGIAf-2e VITAEf-2d VINEGARe-2e-3d SULFURd PHILOSOPHERS SULFURd BLACK SULFUR",
      "d MERCURY SUBLIMATEf-2f-3d CINNABARd SALTd NITREd VITRIOLe-2d ROCK SALTf-2d GOLDd SILVER",
      "d IRON OREf-2d CROCUS OF IRONd REGULUS OF IRONd COPPER OREd IRON-COPPER ORE",
      "d SUBLIMATE OF COPPERd CROCUS OF COPPERg-2d COPPER ANTIMONIATEd SALT OF COPPER ANTIMONIATE",
      "d SUBLIMATE OF SALT OF COPPERd VERDIGRISd TIN OREd LEAD OREd ANTIMONY ORE",
      "d SUBLIMATE OF ANTIMONYd SALT OF ANTIMONYd SUBLIMATE OF SALT OF ANTIMONY",
      "d VINEGAR OF ANTIMONYd REGULUS OF ANTIMONYg-2ee-2e-3e-4d ALKALIe-2d MARCASITEd SAL-AMMONIAC",
      "d ARSENICd REALGARe-2d AURIPIGMENTd BISMUTH OREd TARTARe-2d QUICK LIMEd BORAXe-2e-3d ALUM",
      "d OILd SPIRITd TINCTUREd GUMd WAXd POWDERd CALXd TUTTYd CAPUT MORTUUMd SCEPTER OF JOVE",
      "d CADUCEUSd TRIDENTd STARRED TRIDENTd LODESTONEd SOAPd URINEd HORSE DUNGd ASHESd POT ASHES",
      "d BRICKd POWDERED BRICKd AMALGAMd STRATUM SUPER STRATUMg-2d SUBLIMATIONd PRECIPITATE",
      "d DISTILLd DISSOLVEe-2d PURIFYd PUTREFACTIONd CRUCIBLEe-2e-3e-4e-5d ALEMBICd BATH OF MARY",
      "f VAPOURSd RETORTd HOURd NIGHTd DAY-NIGHTd MONTHd HALF DRAMe OUNCE"]⟩,
    ⟨0x1F780, ["aBLACK LEFT-POINTING ISOSCELES RIGHT TRIANGLE",
      "b UP-POINTING ISOSCELES RIGHT TRIANGLEb RIGHT-POINTING ISOSCELES RIGHT TRIANGLE",
      "b DOWN-POINTING ISOSCELES RIGHT TRIANGLEb SLIGHTLY SMALL CIRCLEaMEDIUM BOLD WHITE CIRCLE",
      "aBOLD WHITE CIRCLEaHEAVY WHITE CIRCLEaVERY HEAVY WHITE CIRCLEaEXTREMELY HEAVY WHITE CIRCLE",
      "aWHITE CIRCLE CONTAINING BLACK SMALL CIRCLEaROUND TARGETaBLACK TINY SQUARE",
      "b SLIGHTLY SMALL SQUAREaLIGHT WHITE SQUAREaMEDIUM WHITE SQUAREaBOLD WHITE SQUARE",
      "aHEAVY WHITE SQUAREaVERY HEAVY WHITE SQUAREaEXTREMELY HEAVY WHITE SQUARE",
      "aWHITE SQUARE CONTAINING BLACK VERY SMALL SQUAREe MEDIUM SQUAREaSQUARE TARGET",
      "aBLACK TINY DIAMONDb VERY SMALL DIAMONDb MEDIUM SMALL DIAMOND",
      "aWHITE DIAMOND CONTAINING BLACK VERY SMALL DIAMONDe MEDIUM DIAMONDaDIAMOND TARGET",
      "aBLACK TINY LOZENGEb VERY SMALL LOZENGEb MEDIUM SMALL LOZENGE",
      "aWHITE LOZENGE CONTAINING BLACK SMALL LOZENGEaTHIN GREEK CROSSaLIGHT GREEK CROSS",
      "aMEDIUM GREEK CROSSaBOLD GREEK CROSSaVERY BOLD GREEK CROSSb HEAVY GREEK CROSS",
      "aEXTREMELY HEAVY GREEK CROSSaTHIN SALTIREaLIGHT SALTIREaMEDIUM SALTIREaBOLD SALTIRE",
      "aHEAVY SALTIREaVERY HEAVY SALTIREaEXTREMELY HEAVY SALTIREaLIGHT FIVE SPOKED ASTERISK",
      "aMEDIUM FIVE SPOKED ASTERISKaBOLD FIVE SPOKED ASTERISKaHEAVY FIVE SPOKED ASTERISK",
      "aVERY HEAVY FIVE SPOKED ASTERISKaEXTREMELY HEAVY FIVE SPOKED ASTERISK",
      "aLIGHT SIX SPOKED ASTERISKaMEDIUM SIX SPOKED ASTERISKaBOLD SIX SPOKED ASTERISK",
      "aHEAVY SIX SPOKED ASTERISKaVERY HEAVY SIX SPOKED ASTERISK",
      "aEXTREMELY HEAVY SIX SPOKED ASTERISKaLIGHT EIGHT SPOKED ASTERISK",
      "aMEDIUM EIGHT SPOKED ASTERISKaBOLD EIGHT SPOKED ASTERISKaHEAVY EIGHT SPOKED ASTERISK",
      "aVERY HEAVY EIGHT SPOKED ASTERISKaLIGHT THREE POINTED BLACK STAR",
      "aMEDIUM THREE POINTED BLACK STARaTHREE POINTED BLACK STAR",
      "aMEDIUM THREE POINTED PINWHEEL STARaLIGHT FOUR POINTED BLACK STAR",
      "aMEDIUM FOUR POINTED BLACK STARaFOUR POINTED BLACK STARaMEDIUM FOUR POINTED PINWHEEL STAR",
      "aREVERSE LIGHT FOUR POINTED PINWHEEL STARaLIGHT FIVE POINTED BLACK STAR",
      "aHEAVY FIVE POINTED BLACK STARaMEDIUM SIX POINTED BLACK STARaHEAVY SIX POINTED BLACK STAR",
      "aSIX POINTED PINWHEEL STARaMEDIUM EIGHT POINTED BLACK STARaHEAVY EIGHT POINTED BLACK STAR",
      "aVERY HEAVY EIGHT POINTED BLACK STARaHEAVY EIGHT POINTED PINWHEEL STAR",
      "aLIGHT TWELVE POINTED BLACK STARaHEAVY TWELVE POINTED BLACK STARd PINWHEEL STAR",
      "aCIRCLED TRIANGLEaNEGATIVE CIRCLED TRIANGLEaCIRCLED SQUAREaNEGATIVE CIRCLED SQUARE"]⟩,
    ⟨0x1F7E0, ["aLARGE ORANGE CIRCLEb YELLOW CIRCLEb GREEN CIRCLEb PURPLE CIRCLEb BROWN CIRCLE",
      "b RED SQUAREb BLUE SQUAREb ORANGE SQUAREb YELLOW SQUAREb GREEN SQUAREb PURPLE SQUARE",
      "b BROWN SQUARE"]⟩,
    ⟨0x1F7F0, ["aHEAVY EQUALS SIGN"]⟩,
    ⟨0x1F800, ["aLEFTWARDS ARROW WITH SMALL TRIANGLE ARROWHEAD",
      "aUPWARDS ARROW WITH SMALL TRIANGLE ARROWHEADaRIGHTWARDS ARROW WITH SMALL TRIANGLE ARROWHEAD",
      "aDOWNWARDS ARROW WITH SMALL TRIANGLE ARROWHEAD",
      "aLEFTWARDS ARROW WITH MEDIUM TRIANGLE ARROWHEAD",
      "aUPWARDS ARROW WITH MEDIUM TRIANGLE ARROWHEAD",
      "aRIGHTWARDS ARROW WITH MEDIUM TRIANGLE ARROWHEAD",
      "aDOWNWARDS ARROW WITH MEDIUM TRIANGLE ARROWHEAD",
      "aLEFTWARDS ARROW WITH LARGE TRIANGLE ARROWHEADaUPWARDS ARROW WITH LARGE TRIANGLE ARROWHEAD",
      "aRIGHTWARDS ARROW WITH LARGE TRIANGLE ARROWHEAD",
      "aDOWNWARDS ARROW WITH LARGE TRIANGLE ARROWHEAD"]⟩,
    ⟨0x1F810, ["aLEFTWARDS ARROW WITH SMALL EQUILATERAL ARROWHEAD",
      "aUPWARDS ARROW WITH SMALL EQUILATERAL ARROWHEAD",
      "aRIGHTWARDS ARROW WITH SMALL EQUILATERAL ARROWHEAD",
      "aDOWNWARDS ARROW WITH SMALL EQUILATERAL ARROWHEAD",
      "aLEFTWARDS ARROW WITH EQUILATERAL ARROWHEADaUPWARDS ARROW WITH EQUILATERAL ARROWHEAD",
      "aRIGHTWARDS ARROW WITH EQUILATERAL ARROWHEADaDOWNWARDS ARROW WITH EQUILATERAL ARROWHEAD",
      "aHEAVY LEFTWARDS ARROW WITH EQUILATERAL ARROWHEADb UPWARDS ARROW WITH EQUILATERAL ARROWHEAD",
      "b RIGHTWARDS ARROW WITH EQUILATERAL ARROWHEADb DOWNWARDS ARROW WITH EQUILATERAL ARROWHEAD",
      "b LEFTWARDS ARROW WITH LARGE EQUILATERAL ARROWHEAD",
      "b UPWARDS ARROW WITH LARGE EQUILATERAL ARROWHEAD",
      "b RIGHTWARDS ARROW WITH LARGE EQUILATERAL ARROWHEAD",
      "b DOWNWARDS ARROW WITH LARGE EQUILATERAL ARROWHEAD",
      "aLEFTWARDS TRIANGLE-HEADED ARROW WITH NARROW SHAFT",
      "aUPWARDS TRIANGLE-HEADED ARROW WITH NARROW SHAFT",
      "aRIGHTWARDS TRIANGLE-HEADED ARROW WITH NARROW SHAFT",
      "aDOWNWARDS TRIANGLE-HEADED ARROW WITH NARROW SHAFT",
      "aLEFTWARDS TRIANGLE-HEADED ARROW WITH MEDIUM SHAFT",
      "aUPWARDS TRIANGLE-HEADED ARROW WITH MEDIUM SHAFT",
      "aRIGHTWARDS TRIANGLE-HEADED ARROW WITH MEDIUM SHAFT",
      "aDOWNWARDS TRIANGLE-HEADED ARROW WITH MEDIUM SHAFT",
      "aLEFTWARDS TRIANGLE-HEADED ARROW WITH BOLD SHAFT",
      "aUPWARDS TRIANGLE-HEADED ARROW WITH BOLD SHAFT",
      "aRIGHTWARDS TRIANGLE-HEADED ARROW WITH BOLD SHAFT",
      "aDOWNWARDS TRIANGLE-HEADED ARROW WITH BOLD SHAFT",
      "aLEFTWARDS TRIANGLE-HEADED ARROW WITH HEAVY SHAFT",
      "aUPWARDS TRIANGLE-HEADED ARROW WITH HEAVY SHAFT",
      "aRIGHTWARDS TRIANGLE-HEADED ARROW WITH HEAVY SHAFT",
      "aDOWNWARDS TRIANGLE-HEADED ARROW WITH HEAVY SHAFT",
      "aLEFTWARDS TRIANGLE-HEADED ARROW WITH VERY HEAVY SHAFT",
      "aUPWARDS TRIANGLE-HEADED ARROW WITH VERY HEAVY SHAFT",
      "aRIGHTWARDS TRIANGLE-HEADED ARROW WITH VERY HEAVY SHAFT",
      "aDOWNWARDS TRIANGLE-HEADED ARROW WITH VERY HEAVY SHAFTaLEFTWARDS FINGER-POST ARROW",
      "aUPWARDS FINGER-POST ARROWaRIGHTWARDS FINGER-POST ARROWaDOWNWARDS FINGER-POST ARROW",
      "aLEFTWARDS SQUARED ARROWaUPWARDS SQUARED ARROWaRIGHTWARDS SQUARED ARROW",
      "aDOWNWARDS SQUARED ARROWaLEFTWARDS COMPRESSED ARROWaUPWARDS COMPRESSED ARROW",
      "aRIGHTWARDS COMPRESSED ARROWaDOWNWARDS COMPRESSED ARROWaLEFTWARDS HEAVY COMPRESSED ARROW",
      "aUPWARDS HEAVY COMPRESSED ARROWaRIGHTWARDS HEAVY COMPRESSED ARROW",
      "aDOWNWARDS HEAVY COMPRESSED ARROWaLEFTWARDS HEAVY ARROWaUPWARDS HEAVY ARROW",
      "aRIGHTWARDS HEAVY ARROWaDOWNWARDS HEAVY ARROW"]⟩,
    ⟨0x1F850, ["aLEFTWARDS SANS-SERIF ARROWaUPWARDS SANS-SERIF ARROWaRIGHTWARDS SANS-SERIF ARROW",
      "aDOWNWARDS SANS-SERIF ARROWaNORTH WEST SANS-SERIF ARROWb EAST SANS-SERIF ARROW",
      "aSOUTH EAST SANS-SERIF ARROWb WEST SANS-SERIF ARROWaLEFT RIGHT SANS-SERIF ARROW",
      "aUP DOWN SANS-SERIF ARROW"]⟩,
    ⟨0x1F860, ["aWIDE-HEADED LEFTWARDS LIGHT BARB ARROWc UPWARDS LIGHT BARB ARROW",
      "c RIGHTWARDS LIGHT BARB ARROWc DOWNWARDS LIGHT BARB ARROWc NORTH WEST LIGHT BARB ARROW",
      "d EAST LIGHT BARB ARROWc SOUTH EAST LIGHT BARB ARROWd WEST LIGHT BARB ARROW",
      "c LEFTWARDS BARB ARROWc UPWARDS BARB ARROWc RIGHTWARDS BARB ARROWc DOWNWARDS BARB ARROW",
      "c NORTH WEST BARB ARROWd EAST BARB ARROWc SOUTH EAST BARB ARROWd WEST BARB ARROW",
      "c LEFTWARDS MEDIUM BARB ARROWc UPWARDS MEDIUM BARB ARROWc RIGHTWARDS MEDIUM BARB ARROW",
      "c DOWNWARDS MEDIUM BARB ARROWc NORTH WEST MEDIUM BARB ARROWd EAST MEDIUM BARB ARROW",
      "c SOUTH EAST MEDIUM BARB ARROWd WEST MEDIUM BARB ARROWc LEFTWARDS HEAVY BARB ARROW",
      "c UPWARDS HEAVY BARB ARROWc RIGHTWARDS HEAVY BARB ARROWc DOWNWARDS HEAVY BARB ARROW",
      "c NORTH WEST HEAVY BARB ARROWd EAST HEAVY BARB ARROWc SOUTH EAST HEAVY BARB ARROW",
      "d WEST HEAVY BARB ARROWc LEFTWARDS VERY HEAVY BARB ARROWc UPWARDS VERY HEAVY BARB ARROW",
      "c RIGHTWARDS VERY HEAVY BARB ARROWc DOWNWARDS VERY HEAVY BARB ARROW",
      "c NORTH WEST VERY HEAVY BARB ARROWd EAST VERY HEAVY BARB ARROW",
      "c SOUTH EAST VERY HEAVY BARB ARROWd WEST VERY HEAVY BARB ARROW"]⟩,
    ⟨0x1F890, ["aLEFTWARDS TRIANGLE ARROWHEADaUPWARDS TRIANGLE ARROWHEAD",
      "aRIGHTWARDS TRIANGLE ARROWHEADaDOWNWARDS TRIANGLE ARROWHEAD",
      "aLEFTWARDS WHITE ARROW WITHIN TRIANGLE ARROWHEAD",
      "aUPWARDS WHITE ARROW WITHIN TRIANGLE ARROWHEAD",
      "aRIGHTWARDS WHITE ARROW WITHIN TRIANGLE ARROWHEAD",
      "aDOWNWARDS WHITE ARROW WITHIN TRIANGLE ARROWHEADaLEFTWARDS ARROW WITH NOTCHED TAIL",
      "aUPWARDS ARROW WITH NOTCHED TAILaRIGHTWARDS ARROW WITH NOTCHED TAIL",
      "aDOWNWARDS ARROW WITH NOTCHED TAILaHEAVY ARROW SHAFT WIDTH ONEe TWO THIRDSe ONE HALFf THIRD",
      "aLEFTWARDS BOTTOM-SHADED WHITE ARROWaRIGHTWARDS BOTTOM SHADED WHITE ARROW",
      "aLEFTWARDS TOP SHADED WHITE ARROWaRIGHTWARDS TOP SHADED WHITE ARROW",
      "aLEFTWARDS LEFT-SHADED WHITE ARROWaRIGHTWARDS RIGHT-SHADED WHITE ARROW",
      "aLEFTWARDS RIGHT-SHADED WHITE ARROWaRIGHTWARDS LEFT-SHADED WHITE ARROW",
      "aLEFTWARDS BACK-TILTED SHADOWED WHITE ARROWaRIGHTWARDS BACK-TILTED SHADOWED WHITE ARROW",
      "aLEFTWARDS FRONT-TILTED SHADOWED WHITE ARROWaRIGHTWARDS FRONT-TILTED SHADOWED WHITE ARROW",
      "aWHITE ARROW SHAFT WIDTH ONEe TWO THIRDS"]⟩,
    ⟨0x1F8B0, ["aARROW POINTING UPWARDS THEN NORTH WESTc RIGHTWARDS THEN CURVING SOUTH WEST"]⟩,
    ⟨0x1F900, ["aCIRCLED CROSS FORMEE WITH FOUR DOTSe TWO DOTSdaLEFT HALF CIRCLE WITH FOUR DOTS",
      "e THREE DOTSe TWO DOTSe DOTdaDOWNWARD FACING HOOKc NOTCHED HOOKc HOOK WITH DOT",
      "c NOTCHED HOOK WITH DOTaPINCHED FINGERSaWHITE HEARTaBROWN HEARTaPINCHING HAND",
      "aZIPPER-MOUTH FACEaMONEY-MOUTH FACEaFACE WITH THERMOMETERaNERD FACEaTHINKING FACE",
      "aFACE WITH HEAD-BANDAGEaROBOT FACEaHUGGING FACEaSIGN OF THE HORNSaCALL ME HAND",
      "aRAISED BACK OF HANDaLEFT-FACING FISTaRIGHT-FACING FISTaHANDSHAKE",
      "aHAND WITH INDEX AND MIDDLE FINGERS CROSSEDaI LOVE YOU HAND SIGNaFACE WITH COWBOY HAT",
      "aCLOWN FACEaNAUSEATED FACEaROLLING ON THE FLOOR LAUGHINGaDROOLING FACEaLYING FACEaFACE PALM",
      "aSNEEZING FACEaFACE WITH ONE EYEBROW RAISEDaGRINNING FACE WITH STAR EYES",
      "d ONE LARGE AND ONE SMALL EYEaFACE WITH FINGER COVERING CLOSED LIPS",
      "aSERIOUS FACE WITH SYMBOLS COVERING MOUTH",
      "aSMILING FACE WITH SMILING EYES AND HAND COVERING MOUTHaFACE WITH OPEN MOUTH VOMITING",
      "aSHOCKED FACE WITH EXPLODING HEADaPREGNANT WOMANaBREAST-FEEDINGaPALMS UP TOGETHERaSELFIE",
      "aPRINCEaMAN IN TUXEDOaMOTHER CHRISTMASaSHRUGaPERSON DOING CARTWHEELaJUGGLINGaFENCER",
      "aMODERN PENTATHLONaWRESTLERSaWATER POLOaHANDBALLaDIVING MASKaWILTED FLOWER",
      "aDRUM WITH DRUMSTICKSaCLINKING GLASSESaTUMBLER GLASSaSPOONaGOAL NETaRIFLEaFIRST PLACE MEDAL",
      "aSECOND PLACE MEDALaTHIRD PLACE MEDALaBOXING GLOVEaMARTIAL ARTS UNIFORMaCURLING STONE",
      "aLACROSSE STICK AND BALLaSOFTBALLaFLYING DISCaCROISSANTaAVOCADOaCUCUMBERaBACONaPOTATO",
      "aCARROTaBAGUETTE BREADaGREEN SALADaSHALLOW PAN OF FOODaSTUFFED FLATBREADaEGGaGLASS OF MILK",
      "aPEANUTSaKIWIFRUITaPANCAKESaDUMPLINGaFORTUNE COOKIEaTAKEOUT BOXaCHOPSTICKSaBOWL WITH SPOON",
      "aCUP WITH STRAWaCOCONUTaBROCCOLIaPIEaPRETZELaCUT OF MEATaSANDWICHaCANNED FOODaLEAFY GREEN",
      "aMANGOaMOON CAKEaBAGELaSMILING FACE WITH SMILING EYES AND THREE HEARTSaYAWNING FACE",
      "aSMILING FACE WITH TEARaFACE WITH PARTY HORN AND PARTY HATc UNEVEN EYES AND WAVY MOUTH",
      "aOVERHEATED FACEaFREEZING FACEaNINJAaDISGUISED FACEaFACE HOLDING BACK TEARS",
      "b WITH PLEADING EYESaSARIaLAB COATaGOGGLESaHIKING BOOTaFLAT SHOEaCRABaLION FACEaSCORPION",
      "aTURKEYaUNICORN FACEaEAGLEaDUCKaBATaSHARKaOWLaFOX FACEaBUTTERFLYaDEERaGORILLAaLIZARD",
      "aRHINOCEROSaSHRIMPaSQUIDaGIRAFFE FACEaZEBRA FACEaHEDGEHOGaSAUROPODaT-REXaCRICKETaKANGAROO",
      "aLLAMAaPEACOCKaHIPPOPOTAMUSaPARROTaRACCOONaLOBSTERaMOSQUITOaMICROBEaBADGERaSWANaMAMMOTH",
      "aDODOaSLOTHaOTTERaORANGUTANaSKUNKaFLAMINGOaOYSTERaBEAVERaBISONaSEALaGUIDE DOGaPROBING CANE",
      "aEMOJI COMPONENT RED HAIRc CURLY HAIRc BALDc WHITE HAIRaBONEaLEGaFOOTaTOOTHaSUPERHERO",
      "aSUPERVILLAINaSAFETY VESTaEAR WITH HEARING AIDaMOTORIZED WHEELCHAIRaMANUAL WHEELCHAIR",
      "aMECHANICAL ARMb LEGaCHEESE WEDGEaCUPCAKEaSALT SHAKERaBEVERAGE BOXaGARLICaONIONaFALAFEL",
      "aWAFFLEaBUTTERaMATE DRINKaICE CUBEaBUBBLE TEAaTROLLaSTANDING PERSONaKNEELING PERSON",
      "aDEAF PERSONaFACE WITH MONOCLEaADULTaCHILDaOLDER ADULTaBEARDED PERSONaPERSON WITH HEADSCARF",
      "b IN STEAMY ROOMb CLIMBINGb IN LOTUS POSITIONaMAGEaFAIRYaVAMPIREaMERPERSONaELFaGENIEaZOMBIE",
      "aBRAINaORANGE HEARTaBILLED CAPaSCARFaGLOVESaCOATaSOCKSaRED GIFT ENVELOPEaFIRECRACKER",
      "aJIGSAW PUZZLE PIECEaTEST TUBEaPETRI DISHaDNA DOUBLE HELIXaCOMPASSaABACUSaFIRE EXTINGUISHER",
      "aTOOLBOXaBRICKaMAGNETaLUGGAGEaLOTION BOTTLEaSPOOL OF THREADaBALL OF YARNaSAFETY PIN",
      "aTEDDY BEARaBROOMaBASKETaROLL OF PAPERaBAR OF SOAPaSPONGEaRECEIPTaNAZAR AMULET",
      "aNEUTRAL CHESS KINGc QUEENc ROOKc BISHOPc KNIGHTc PAWN",
      "aWHITE CHESS KNIGHT ROTATED FORTY-FIVE DEGREES",
      "aBLACK CHESS KNIGHT ROTATED FORTY-FIVE DEGREES",
      "aNEUTRAL CHESS KNIGHT ROTATED FORTY-FIVE DEGREESaWHITE CHESS KING ROTATED NINETY DEGREES",
      "c QUEEN ROTATED NINETY DEGREESc ROOK ROTATED NINETY DEGREESc BISHOP ROTATED NINETY DEGREES",
      "c KNIGHT ROTATED NINETY DEGREESc PAWN ROTATED NINETY DEGREES",
      "aBLACK CHESS KING ROTATED NINETY DEGREESc QUEEN ROTATED NINETY DEGREES",
      "c ROOK ROTATED NINETY DEGREESc BISHOP ROTATED NINETY DEGREESc KNIGHT ROTATED NINETY DEGREES",
      "c PAWN ROTATED NINETY DEGREESaNEUTRAL CHESS KING ROTATED NINETY DEGREES",
      "c QUEEN ROTATED NINETY DEGREESc ROOK ROTATED NINETY DEGREESc BISHOP ROTATED NINETY DEGREES",
      "c KNIGHT ROTATED NINETY DEGREESc PAWN ROTATED NINETY DEGREES",
      "aWHITE CHESS KNIGHT ROTATED ONE HUNDRED THIRTY-FIVE DEGREES",
      "aBLACK CHESS KNIGHT ROTATED ONE HUNDRED THIRTY-FIVE DEGREES",
      "aNEUTRAL CHESS KNIGHT ROTATED ONE HUNDRED THIRTY-FIVE DEGREESaWHITE CHESS TURNED KING",
      "d QUEENd ROOKd BISHOPd KNIGHTd PAWNaBLACK CHESS TURNED KINGd QUEENd ROOKd BISHOPd KNIGHT",
      "d PAWNaNEUTRAL CHESS TURNED KINGd QUEENd ROOKd BISHOPd KNIGHTd PAWN",
      "aWHITE CHESS KNIGHT ROTATED TWO HUNDRED TWENTY-FIVE DEGREES",
      "aBLACK CHESS KNIGHT ROTATED TWO HUNDRED TWENTY-FIVE DEGREES",
      "aNEUTRAL CHESS KNIGHT ROTATED TWO HUNDRED TWENTY-FIVE DEGREES",
      "aWHITE CHESS KING ROTATED TWO HUNDRED SEVENTY DEGREES",
      "c QUEEN ROTATED TWO HUNDRED SEVENTY DEGREESc ROOK ROTATED TWO HUNDRED SEVENTY DEGREES",
      "c BISHOP ROTATED TWO HUNDRED SEVENTY DEGREESc KNIGHT ROTATED TWO HUNDRED SEVENTY DEGREES",
      "c PAWN ROTATED TWO HUNDRED SEVENTY DEGREES",
      "aBLACK CHESS KING ROTATED TWO HUNDRED SEVENTY DEGREES",
      "c QUEEN ROTATED TWO HUNDRED SEVENTY DEGREESc ROOK ROTATED TWO HUNDRED SEVENTY DEGREES",
      "c BISHOP ROTATED TWO HUNDRED SEVENTY DEGREESc KNIGHT ROTATED TWO HUNDRED SEVENTY DEGREES",
      "c PAWN ROTATED TWO HUNDRED SEVENTY DEGREES",
      "aNEUTRAL CHESS KING ROTATED TWO HUNDRED SEVENTY DEGREES",
      "c QUEEN ROTATED TWO HUNDRED SEVENTY DEGREESc ROOK ROTATED TWO HUNDRED SEVENTY DEGREES",
      "c BISHOP ROTATED TWO HUNDRED SEVENTY DEGREESc KNIGHT ROTATED TWO HUNDRED SEVENTY DEGREES",
      "c PAWN ROTATED TWO HUNDRED SEVENTY DEGREES",
      "aWHITE CHESS KNIGHT ROTATED THREE HUNDRED FIFTEEN DEGREES",
      "aBLACK CHESS KNIGHT ROTATED THREE HUNDRED FIFTEEN DEGREES",
      "aNEUTRAL CHESS KNIGHT ROTATED THREE HUNDRED FIFTEEN DEGREESaWHITE CHESS EQUIHOPPER",
      "aBLACK CHESS EQUIHOPPERaNEUTRAL CHESS EQUIHOPPER",
      "aWHITE CHESS EQUIHOPPER ROTATED NINETY DEGREES",
      "aBLACK CHESS EQUIHOPPER ROTATED NINETY DEGREES",
      "aNEUTRAL CHESS EQUIHOPPER ROTATED NINETY DEGREESaWHITE CHESS KNIGHT-QUEENd-ROOKd-BISHOP",
      "aBLACK CHESS KNIGHT-QUEENd-ROOKd-BISHOP"]⟩,
    ⟨0x1FA60, ["aXIANGQI RED GENERALc MANDARINc ELEPHANTc HORSEc CHARIOTc CANNONc SOLDIER",
      "b BLACK GENERALc MANDARINc ELEPHANTc HORSEc CHARIOTc CANNONc SOLDIER"]⟩,
    ⟨0x1FA70, ["aBALLET SHOESaONE-PIECE SWIMSUITaBRIEFSaSHORTSaTHONG SANDAL"]⟩,
    ⟨0x1FA78, ["aDROP OF BLOODaADHESIVE BANDAGEaSTETHOSCOPEaX-RAYaCRUTCH"]⟩,
    ⟨0x1FA80, ["aYO-YOaKITEaPARACHUTEaBOOMERANGaMAGIC WANDaPINATAaNESTING DOLLS"]⟩,
    ⟨0x1FA90, ["aRINGED PLANETaCHAIRaRAZORaAXEaDIYA LAMPaBANJOaMILITARY HELMETaACCORDIONaLONG DRUM",
      "aCOINaCARPENTRY SAWaSCREWDRIVERaLADDERaHOOKaMIRRORaWINDOWaPLUNGERaSEWING NEEDLEaKNOTaBUCKET",
      "aMOUSE TRAPaTOOTHBRUSHaHEADSTONEaPLACARDaROCKaMIRROR BALLaIDENTIFICATION CARDaLOW BATTERY",
      "aHAMSA"]⟩,
    ⟨0x1FAB0, ["aFLYaWORMaBEETLEaCOCKROACHaPOTTED PLANTaWOODaFEATHERaLOTUSaCORALaEMPTY NEST",
      "aNEST WITH EGGS"]⟩,
    ⟨0x1FAC0, ["aANATOMICAL HEARTaLUNGSaPEOPLE HUGGINGaPREGNANT MANb PERSONaPERSON WITH CROWN"]⟩,
    ⟨0x1FAD0, ["aBLUEBERRIESaBELL PEPPERaOLIVEaFLATBREADaTAMALEaFONDUEaTEAPOTaPOURING LIQUIDaBEANS",
      "aJAR"]⟩,
    ⟨0x1FAE0, ["aMELTING FACEaSALUTING FACEaFACE WITH OPEN EYES AND HAND OVER MOUTHc PEEKING EYE",
      "c DIAGONAL MOUTHaDOTTED LINE FACEaBITING LIPaBUBBLES"]⟩,
    ⟨0x1FAF0, ["aHAND WITH INDEX FINGER AND THUMB CROSSEDaRIGHTWARDS HANDaLEFTWARDS HAND",
      "aPALM DOWN HANDb UP HANDaINDEX POINTING AT THE VIEWERaHEART HANDS"]⟩,
    ⟨0x1FB00, ["aBLOCK SEXTANT-1c-2c-12c-3c-13c-23c-123c-4c-14c-24c-124c-34c-134c-234c-1234c-5c-15",
      "c-25c-125c-35c-235c-1235c-45c-145c-245c-1245c-345c-1345c-2345c-12345c-6c-16c-26c-126c-36",
      "c-136c-236c-1236c-46c-146c-1246c-346c-1346c-2346c-12346c-56c-156c-256c-1256c-356c-1356",
      "c-2356c-12356c-456c-1456c-2456c-12456c-3456c-13456c-23456",
      "aLOWER LEFT BLOCK DIAGONAL LOWER MIDDLE LEFT TO LOWER CENTREj RIGHT",
      "e UPPER MIDDLE LEFT TO LOWER CENTREj RIGHTf LEFT TO LOWER CENTRE",
      "b RIGHT BLOCK DIAGONAL UPPER MIDDLE LEFT TO UPPER CENTREj RIGHT",
      "e LOWER MIDDLE LEFT TO UPPER CENTREj RIGHTf LEFT TO UPPER CENTRE",
      "f MIDDLE LEFT TO UPPER MIDDLE RIGHTf CENTRE TO LOWER MIDDLE RIGHT",
      "f LEFT TO LOWER MIDDLE RIGHTf CENTRE TO UPPER MIDDLE RIGHTf LEFT TO UPPER MIDDLE RIGHT",
      "f CENTRE TO UPPER RIGHTb LEFT BLOCK DIAGONAL UPPER CENTRE TO UPPER MIDDLE RIGHT",
      "f LEFT TO UPPER MIDDLE RIGHTf CENTRE TO LOWER MIDDLE RIGHTf LEFT TO LOWER MIDDLE RIGHT",
      "f CENTRE TO LOWER RIGHTf MIDDLE LEFT TO LOWER MIDDLE RIGHT",
      "aUPPER RIGHT BLOCK DIAGONAL LOWER MIDDLE LEFT TO LOWER CENTREj RIGHT",
      "e UPPER MIDDLE LEFT TO LOWER CENTREj RIGHTf LEFT TO LOWER CENTRE",
      "b LEFT BLOCK DIAGONAL UPPER MIDDLE LEFT TO UPPER CENTREj RIGHT",
      "e LOWER MIDDLE LEFT TO UPPER CENTREj RIGHTf LEFT TO UPPER CENTRE",
      "f MIDDLE LEFT TO UPPER MIDDLE RIGHTf CENTRE TO LOWER MIDDLE RIGHT",
      "f LEFT TO LOWER MIDDLE RIGHTf CENTRE TO UPPER MIDDLE RIGHTf LEFT TO UPPER MIDDLE RIGHT",
      "f CENTRE TO UPPER RIGHTb RIGHT BLOCK DIAGONAL UPPER CENTRE TO UPPER MIDDLE RIGHT",
      "f LEFT TO UPPER MIDDLE RIGHTf CENTRE TO LOWER MIDDLE RIGHTf LEFT TO LOWER MIDDLE RIGHT",
      "f CENTRE TO LOWER RIGHTf MIDDLE LEFT TO LOWER MIDDLE RIGHT",
      "b AND RIGHT AND LOWER TRIANGULAR THREE QUARTERS BLOCK",
      "aLEFT AND LOWER AND RIGHT TRIANGULAR THREE QUARTERS BLOCK",
      "aUPPER AND LEFT AND LOWER TRIANGULAR THREE QUARTERS BLOCK",
      "aLEFT AND UPPER AND RIGHT TRIANGULAR THREE QUARTERS BLOCKb TRIANGULAR ONE QUARTER BLOCK",
      "aUPPER TRIANGULAR ONE QUARTER BLOCKaRIGHT TRIANGULAR ONE QUARTER BLOCK",
      "aLOWER TRIANGULAR ONE QUARTER BLOCKaVERTICAL ONE EIGHTH BLOCK-2e-3e-4e-5e-6e-7",
      "aHORIZONTAL ONE EIGHTH BLOCK-2e-3e-4e-5e-6e-7aLEFT AND LOWER ONE EIGHTH BLOCK",
      "c UPPER ONE EIGHTH BLOCKaRIGHT AND UPPER ONE EIGHTH BLOCKc LOWER ONE EIGHTH BLOCK",
      "aUPPER AND LOWER ONE EIGHTH BLOCKaHORIZONTAL ONE EIGHTH BLOCK-1358aUPPER ONE QUARTER BLOCK",
      "b THREE EIGHTHS BLOCKb FIVE EIGHTHS BLOCKb THREE QUARTERS BLOCKb SEVEN EIGHTHS BLOCK",
      "aRIGHT ONE QUARTER BLOCKb THREE EIGHTHS BLOCKb FIVE EIGHTHS BLOCKb THREE QUARTERS BLOCK",
      "b SEVEN EIGHTHS BLOCKaLEFT HALF MEDIUM SHADEaRIGHT HALF MEDIUM SHADE",
      "aUPPER HALF MEDIUM SHADEaLOWER HALF MEDIUM SHADEaINVERSE MEDIUM SHADE",
      "aUPPER HALF BLOCK AND LOWER HALF INVERSE MEDIUM SHADE",
      "c INVERSE MEDIUM SHADE AND LOWER HALF BLOCK"]⟩,
    ⟨0x1FB94, ["aLEFT HALF INVERSE MEDIUM SHADE AND RIGHT HALF BLOCKaCHECKER BOARD FILL",
      "aINVERSE CHECKER BOARD FILLaHEAVY HORIZONTAL FILLaUPPER LEFT TO LOWER RIGHT FILL",
      "b RIGHT TO LOWER LEFT FILLb AND LOWER TRIANGULAR HALF BLOCK",
      "aLEFT AND RIGHT TRIANGULAR HALF BLOCKaUPPER LEFT TRIANGULAR MEDIUM SHADE",
      "b RIGHT TRIANGULAR MEDIUM SHADEaLOWER RIGHT TRIANGULAR MEDIUM SHADE",
      "b LEFT TRIANGULAR MEDIUM SHADEaBOX DRAWINGS LIGHT DIAGONAL UPPER CENTRE TO MIDDLE LEFT",
      "i RIGHTe MIDDLE LEFT TO LOWER CENTREf RIGHT TO LOWER CENTRE",
      "e UPPER CENTRE TO MIDDLE LEFT TO LOWER CENTREi RIGHT TO LOWER CENTRE",
      "e MIDDLE LEFT TO LOWER CENTRE TO MIDDLE RIGHTh UPPER CENTRE TO MIDDLE RIGHT",
      "e UPPER CENTRE TO MIDDLE LEFT AND MIDDLE RIGHT TO LOWER CENTRE",
      "i RIGHT AND MIDDLE LEFT TO LOWER CENTREj TO LOWER CENTRE TO MIDDLE LEFT",
      "i LEFT TO LOWER CENTRE TO MIDDLE RIGHT",
      "e MIDDLE LEFT TO UPPER CENTRE TO MIDDLE RIGHT TO LOWER CENTRE",
      "f RIGHT TO UPPER CENTRE TO MIDDLE LEFT TO LOWER CENTREe DIAMOND",
      "d HORIZONTAL WITH VERTICAL STROKEaARROWHEAD-SHAPED POINTERaINVERSE CHECK MARK",
      "aLEFT HALF RUNNING MANaRIGHT HALF RUNNING MANaINVERSE DOWNWARDS ARROW WITH TIP LEFTWARDS",
      "aLEFTWARDS ARROW AND UPPER AND LOWER ONE EIGHTH BLOCK",
      "aRIGHTWARDS ARROW AND UPPER AND LOWER ONE EIGHTH BLOCK",
      "aDOWNWARDS ARROW AND RIGHT ONE EIGHTH BLOCKaUPWARDS ARROW AND RIGHT ONE EIGHTH BLOCK",
      "aLEFT HALF FOLDERaRIGHT HALF FOLDERaVOIDED GREEK CROSSaRIGHT OPEN SQUARED DOT",
      "aNEGATIVE DIAGONAL CROSSc MIDDLE RIGHT TO LOWER CENTREc DIAMOND",
      "aWHITE HEAVY SALTIRE WITH ROUNDED CORNERSaLEFT THIRD WHITE RIGHT POINTING INDEX",
      "aMIDDLE THIRD WHITE RIGHT POINTING INDEXaRIGHT THIRD WHITE RIGHT POINTING INDEX",
      "aNEGATIVE SQUARED QUESTION MARKaSTICK FIGUREc WITH ARMS RAISEDc LEANING LEFTd RIGHT",
      "c WITH DRESSaWHITE UP-POINTING CHEVRON"]⟩,
    ⟨0x1FBF0, ["aSEGMENTED DIGIT ZEROc ONEc TWOc THREEc FOURc FIVEc SIXc SEVENc EIGHTc NINE"]⟩,
    ⟨0x2F800, ["aCJK COMPATIBILITY IDEOGRAPH-2F800d-2F801d-2F802d-2F803d-2F804d-2F805d-2F806",
      "d-2F807d-2F808d-2F809d-2F80Ad-2F80Bd-2F80Cd-2F80Dd-2F80Ed-2F80Fd-2F810d-2F811d-2F812d-2F813",
      "d-2F814d-2F815d-2F816d-2F817d-2F818d-2F819d-2F81Ad-2F81Bd-2F81Cd-2F81Dd-2F81Ed-2F81Fd-2F820",
      "d-2F821d-2F822d-2F823d-2F824d-2F825d-2F826d-2F827d-2F828d-2F829d-2F82Ad-2F82Bd-2F82Cd-2F82D",
      "d-2F82Ed-2F82Fd-2F830d-2F831d-2F832d-2F833d-2F834d-2F835d-2F836d-2F837d-2F838d-2F839d-2F83A",
      "d-2F83Bd-2F83Cd-2F83Dd-2F83Ed-2F83Fd-2F840d-2F841d-2F842d-2F843d-2F844d-2F845d-2F846d-2F847",
      "d-2F848d-2F849d-2F84Ad-2F84Bd-2F84Cd-2F84Dd-2F84Ed-2F84Fd-2F850d-2F851d-2F852d-2F853d-2F854",
      "d-2F855d-2F856d-2F857d-2F858d-2F859d-2F85Ad-2F85Bd-2F85Cd-2F85Dd-2F85Ed-2F85Fd-2F860d-2F861",
      "d-2F862d-2F863d-2F864d-2F865d-2F866d-2F867d-2F868d-2F869d-2F86Ad-2F86Bd-2F86Cd-2F86Dd-2F86E",
      "d-2F86Fd-2F870d-2F871d-2F872d-2F873d-2F874d-2F875d-2F876d-2F877d-2F878d-2F879d-2F87Ad-2F87B",
      "d-2F87Cd-2F87Dd-2F87Ed-2F87Fd-2F880d-2F881d-2F882d-2F883d-2F884d-2F885d-2F886d-2F887d-2F888",
      "d-2F889d-2F88Ad-2F88Bd-2F88Cd-2F88Dd-2F88Ed-2F88Fd-2F890d-2F891d-2F892d-2F893d-2F894d-2F895",
      "d-2F896d-2F897d-2F898d-2F899d-2F89Ad-2F89Bd-2F89Cd-2F89Dd-2F89Ed-2F89Fd-2F8A0d-2F8A1d-2F8A2",
      "d-2F8A3d-2F8A4d-2F8A5d-2F8A6d-2F8A7d-2F8A8d-2F8A9d-2F8AAd-2F8ABd-2F8ACd-2F8ADd-2F8AEd-2F8AF",
      "d-2F8B0d-2F8B1d-2F8B2d-2F8B3d-2F8B4d-2F8B5d-2F8B6d-2F8B7d-2F8B8d-2F8B9d-2F8BAd-2F8BBd-2F8BC",
      "d-2F8BDd-2F8BEd-2F8BFd-2F8C0d-2F8C1d-2F8C2d-2F8C3d-2F8C4d-2F8C5d-2F8C6d-2F8C7d-2F8C8d-2F8C9",
      "d-2F8CAd-2F8CBd-2F8CCd-2F8CDd-2F8CEd-2F8CFd-2F8D0d-2F8D1d-2F8D2d-2F8D3d-2F8D4d-2F8D5d-2F8D6",
      "d-2F8D7d-2F8D8d-2F8D9d-2F8DAd-2F8DBd-2F8DCd-2F8DDd-2F8DEd-2F8DFd-2F8E0d-2F8E1d-2F8E2d-2F8E3",
      "d-2F8E4d-2F8E5d-2F8E6d-2F8E7d-2F8E8d-2F8E9d-2F8EAd-2F8EBd-2F8ECd-2F8EDd-2F8EEd-2F8EFd-2F8F0",
      "d-2F8F1d-2F8F2d-2F8F3d-2F8F4d-2F8F5d-2F8F6d-2F8F7d-2F8F8d-2F8F9d-2F8FAd-2F8FBd-2F8FCd-2F8FD",
      "d-2F8FEd-2F8FFd-2F900d-2F901d-2F902d-2F903d-2F904d-2F905d-2F906d-2F907d-2F908d-2F909d-2F90A",
      "d-2F90Bd-2F90Cd-2F90Dd-2F90Ed-2F90Fd-2F910d-2F911d-2F912d-2F913d-2F914d-2F915d-2F916d-2F917",
      "d-2F918d-2F919d-2F91Ad-2F91Bd-2F91Cd-2F91Dd-2F91Ed-2F91Fd-2F920d-2F921d-2F922d-2F923d-2F924",
      "d-2F925d-2F926d-2F927d-2F928d-2F929d-2F92Ad-2F92Bd-2F92Cd-2F92Dd-2F92Ed-2F92Fd-2F930d-2F931",
      "d-2F932d-2F933d-2F934d-2F935d-2F936d-2F937d-2F938d-2F939d-2F93Ad-2F93Bd-2F93Cd-2F93Dd-2F93E",
      "d-2F93Fd-2F940d-2F941d-2F942d-2F943d-2F944d-2F945d-2F946d-2F947d-2F948d-2F949d-2F94Ad-2F94B",
      "d-2F94Cd-2F94Dd-2F94Ed-2F94Fd-2F950d-2F951d-2F952d-2F953d-2F954d-2F955d-2F956d-2F957d-2F958",
      "d-2F959d-2F95Ad-2F95Bd-2F95Cd-2F95Dd-2F95Ed-2F95Fd-2F960d-2F961d-2F962d-2F963d-2F964d-2F965",
      "d-2F966d-2F967d-2F968d-2F969d-2F96Ad-2F96Bd-2F96Cd-2F96Dd-2F96Ed-2F96Fd-2F970d-2F971d-2F972",
      "d-2F973d-2F974d-2F975d-2F976d-2F977d-2F978d-2F979d-2F97Ad-2F97Bd-2F97Cd-2F97Dd-2F97Ed-2F97F",
      "d-2F980d-2F981d-2F982d-2F983d-2F984d-2F985d-2F986d-2F987d-2F988d-2F989d-2F98Ad-2F98Bd-2F98C",
      "d-2F98Dd-2F98Ed-2F98Fd-2F990d-2F991d-2F992d-2F993d-2F994d-2F995d-2F996d-2F997d-2F998d-2F999",
      "d-2F99Ad-2F99Bd-2F99Cd-2F99Dd-2F99Ed-2F99Fd-2F9A0d-2F9A1d-2F9A2d-2F9A3d-2F9A4d-2F9A5d-2F9A6",
      "d-2F9A7d-2F9A8d-2F9A9d-2F9AAd-2F9ABd-2F9ACd-2F9ADd-2F9AEd-2F9AFd-2F9B0d-2F9B1d-2F9B2d-2F9B3",
      "d-2F9B4d-2F9B5d-2F9B6d-2F9B7d-2F9B8d-2F9B9d-2F9BAd-2F9BBd-2F9BCd-2F9BDd-2F9BEd-2F9BFd-2F9C0",
      "d-2F9C1d-2F9C2d-2F9C3d-2F9C4d-2F9C5d-2F9C6d-2F9C7d-2F9C8d-2F9C9d-2F9CAd-2F9CBd-2F9CCd-2F9CD",
      "d-2F9CEd-2F9CFd-2F9D0d-2F9D1d-2F9D2d-2F9D3d-2F9D4d-2F9D5d-2F9D6d-2F9D7d-2F9D8d-2F9D9d-2F9DA",
      "d-2F9DBd-2F9DCd-2F9DDd-2F9DEd-2F9DFd-2F9E0d-2F9E1d-2F9E2d-2F9E3d-2F9E4d-2F9E5d-2F9E6d-2F9E7",
      "d-2F9E8d-2F9E9d-2F9EAd-2F9EBd-2F9ECd-2F9EDd-2F9EEd-2F9EFd-2F9F0d-2F9F1d-2F9F2d-2F9F3d-2F9F4",
      "d-2F9F5d-2F9F6d-2F9F7d-2F9F8d-2F9F9d-2F9FAd-2F9FBd-2F9FCd-2F9FDd-2F9FEd-2F9FFd-2FA00d-2FA01",
      "d-2FA02d-2FA03d-2FA04d-2FA05d-2FA06d-2FA07d-2FA08d-2FA09d-2FA0Ad-2FA0Bd-2FA0Cd-2FA0Dd-2FA0E",
      "d-2FA0Fd-2FA10d-2FA11d-2FA12d-2FA13d-2FA14d-2FA15d-2FA16d-2FA17d-2FA18d-2FA19d-2FA1Ad-2FA1B",
      "d-2FA1Cd-2FA1D"]⟩,
    ⟨0xE0001, ["aLANGUAGE TAG"]⟩,
    ⟨0xE0020, ["aTAG SPACEb EXCLAMATION MARKb QUOTATION MARKb NUMBER SIGNb DOLLAR SIGN",
      "b PERCENT SIGNb AMPERSANDb APOSTROPHEb LEFT PARENTHESISb RIGHT PARENTHESISb ASTERISK",
      "b PLUS SIGNb COMMAb HYPHEN-MINUSb FULL STOPb SOLIDUSb DIGIT ZEROc ONEc TWOc THREEc FOUR",
      "c FIVEc SIXc SEVENc EIGHTc NINEb COLONb SEMICOLONb LESS-THAN SIGNb EQUALS SIGN",
      "b GREATER-THAN SIGNb QUESTION MARKb COMMERCIAL ATb LATIN CAPITAL LETTER Ae Be Ce De Ee Fe G",
      "e He Ie Je Ke Le Me Ne Oe Pe Qe Re Se Te Ue Ve We Xe Ye Zb LEFT SQUARE BRACKET",
      "b REVERSE SOLIDUSb RIGHT SQUARE BRACKETb CIRCUMFLEX ACCENTb LOW LINEb GRAVE ACCENT",
      "b LATIN SMALL LETTER Ae Be Ce De Ee Fe Ge He Ie Je Ke Le Me Ne Oe Pe Qe Re Se Te Ue Ve We X",
      "e Ye Zb LEFT CURLY BRACKETb VERTICAL LINEb RIGHT CURLY BRACKETb TILDEaCANCEL TAG"]⟩,
    ⟨0xE0100, ["aVARIATION SELECTOR-17c-18c-19c-20c-21c-22c-23c-24c-25c-26c-27c-28c-29c-30c-31c-32",
      "c-33c-34c-35c-36c-37c-38c-39c-40c-41c-42c-43c-44c-45c-46c-47c-48c-49c-50c-51c-52c-53c-54",
      "c-55c-56c-57c-58c-59c-60c-61c-62c-63c-64c-65c-66c-67c-68c-69c-70c-71c-72c-73c-74c-75c-76",
      "c-77c-78c-79c-80c-81c-82c-83c-84c-85c-86c-87c-88c-89c-90c-91c-92c-93c-94c-95c-96c-97c-98",
      "c-99c-100c-101c-102c-103c-104c-105c-106c-107c-108c-109c-110c-111c-112c-113c-114c-115c-116",
      "c-117c-118c-119c-120c-121c-122c-123c-124c-125c-126c-127c-128c-129c-130c-131c-132c-133c-134",
      "c-135c-136c-137c-138c-139c-140c-141c-142c-143c-144c-145c-146c-147c-148c-149c-150c-151c-152",
      "c-153c-154c-155c-156c-157c-158c-159c-160c-161c-162c-163c-164c-165c-166c-167c-168c-169c-170",
      "c-171c-172c-173c-174c-175c-176c-177c-178c-179c-180c-181c-182c-183c-184c-185c-186c-187c-188",
      "c-189c-190c-191c-192c-193c-194c-195c-196c-197c-198c-199c-200c-201c-202c-203c-204c-205c-206",
      "c-207c-208c-209c-210c-211c-212c-213c-214c-215c-216c-217c-218c-219c-220c-221c-222c-223c-224",
      "c-225c-226c-227c-228c-229c-230c-231c-232c-233c-234c-235c-236c-237c-238c-239c-240c-241c-242",
      "c-243c-244c-245c-246c-247c-248c-249c-250c-251c-252c-253c-254c-255c-256"]⟩
  ]

end PromptContract.Text

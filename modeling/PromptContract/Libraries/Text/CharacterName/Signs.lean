import PromptContract.Libraries.Text.CharacterName.Run

/-!
# Names of characters: signs

The names of marks, arrows, signs of mathematics and drawing, and some scripts:
the characters from U+2000 to U+2FFF, by runs.
-/

namespace PromptContract.Text

/-- The names of marks, arrows, signs of mathematics and drawing, and some scripts. -/
def signNames : Array NameRun :=
  #[
    ⟨0x2000, ["aEN QUADaEM QUADaEN SPACEaEM SPACEaTHREE-PER-EM SPACEaFOUR-PER-EM SPACE",
      "aSIX-PER-EM SPACEaFIGURE SPACEaPUNCTUATION SPACEaTHIN SPACEaHAIR SPACEaZERO WIDTH SPACE",
      "c NON-JOINERc JOINERaLEFT-TO-RIGHT MARKaRIGHT-TO-LEFT MARKaHYPHENaNON-BREAKING HYPHEN",
      "aFIGURE DASHaEN DASHaEM DASHaHORIZONTAL BARaDOUBLE VERTICAL LINEb LOW LINE",
      "aLEFT SINGLE QUOTATION MARKaRIGHT SINGLE QUOTATION MARKaSINGLE LOW-9 QUOTATION MARK",
      "b HIGH-REVERSED-9 QUOTATION MARKaLEFT DOUBLE QUOTATION MARKaRIGHT DOUBLE QUOTATION MARK",
      "aDOUBLE LOW-9 QUOTATION MARKb HIGH-REVERSED-9 QUOTATION MARKaDAGGERaDOUBLE DAGGERaBULLET",
      "aTRIANGULAR BULLETaONE DOT LEADERaTWO DOT LEADERaHORIZONTAL ELLIPSISaHYPHENATION POINT",
      "aLINE SEPARATORaPARAGRAPH SEPARATORaLEFT-TO-RIGHT EMBEDDINGaRIGHT-TO-LEFT EMBEDDING",
      "aPOP DIRECTIONAL FORMATTINGaLEFT-TO-RIGHT OVERRIDEaRIGHT-TO-LEFT OVERRIDE",
      "aNARROW NO-BREAK SPACEaPER MILLE SIGNb TEN THOUSAND SIGNaPRIMEaDOUBLE PRIMEaTRIPLE PRIME",
      "aREVERSED PRIMEb DOUBLE PRIMEb TRIPLE PRIMEaCARETaSINGLE LEFT-POINTING ANGLE QUOTATION MARK",
      "b RIGHT-POINTING ANGLE QUOTATION MARKaREFERENCE MARKaDOUBLE EXCLAMATION MARKaINTERROBANG",
      "aOVERLINEaUNDERTIEaCHARACTER TIEaCARET INSERTION POINTaASTERISMaHYPHEN BULLET",
      "aFRACTION SLASHaLEFT SQUARE BRACKET WITH QUILLaRIGHT SQUARE BRACKET WITH QUILL",
      "aDOUBLE QUESTION MARKaQUESTION EXCLAMATION MARKaEXCLAMATION QUESTION MARKaTIRONIAN SIGN ET",
      "aREVERSED PILCROW SIGNaBLACK LEFTWARDS BULLETb RIGHTWARDS BULLETaLOW ASTERISK",
      "aREVERSED SEMICOLONaCLOSE UPaTWO ASTERISKS ALIGNED VERTICALLYaCOMMERCIAL MINUS SIGN",
      "aSWUNG DASHaINVERTED UNDERTIEaFLOWER PUNCTUATION MARKaTHREE DOT PUNCTUATIONaQUADRUPLE PRIME",
      "aFOUR DOT PUNCTUATIONaFIVE DOT PUNCTUATIONaTWO DOT PUNCTUATIONaFOUR DOT MARKaDOTTED CROSS",
      "aTRICOLONaVERTICAL FOUR DOTSaMEDIUM MATHEMATICAL SPACEaWORD JOINERaFUNCTION APPLICATION",
      "aINVISIBLE TIMESb SEPARATORb PLUS"]⟩,
    ⟨0x2066, ["aLEFT-TO-RIGHT ISOLATEaRIGHT-TO-LEFT ISOLATEaFIRST STRONG ISOLATE",
      "aPOP DIRECTIONAL ISOLATEaINHIBIT SYMMETRIC SWAPPINGaACTIVATE SYMMETRIC SWAPPING",
      "aINHIBIT ARABIC FORM SHAPINGaACTIVATE ARABIC FORM SHAPINGaNATIONAL DIGIT SHAPES",
      "aNOMINAL DIGIT SHAPESaSUPERSCRIPT ZEROb LATIN SMALL LETTER I"]⟩,
    ⟨0x2074, ["aSUPERSCRIPT FOURb FIVEb SIXb SEVENb EIGHTb NINEb PLUS SIGNb MINUSb EQUALS SIGN",
      "b LEFT PARENTHESISb RIGHT PARENTHESISb LATIN SMALL LETTER NaSUBSCRIPT ZEROb ONEb TWOb THREE",
      "b FOURb FIVEb SIXb SEVENb EIGHTb NINEb PLUS SIGNb MINUSb EQUALS SIGNb LEFT PARENTHESIS",
      "b RIGHT PARENTHESIS"]⟩,
    ⟨0x2090, ["aLATIN SUBSCRIPT SMALL LETTER Ae Ee Oe Xe SCHWAe He Ke Le Me Ne Pe Se T"]⟩,
    ⟨0x20A0, ["aEURO-CURRENCY SIGNaCOLON SIGNaCRUZEIRO SIGNaFRENCH FRANC SIGNaLIRA SIGNaMILL SIGN",
      "aNAIRA SIGNaPESETA SIGNaRUPEE SIGNaWON SIGNaNEW SHEQEL SIGNaDONG SIGNaEURO SIGNaKIP SIGN",
      "aTUGRIK SIGNaDRACHMA SIGNaGERMAN PENNY SIGNaPESO SIGNaGUARANI SIGNaAUSTRAL SIGN",
      "aHRYVNIA SIGNaCEDI SIGNaLIVRE TOURNOIS SIGNaSPESMILO SIGNaTENGE SIGNaINDIAN RUPEE SIGN",
      "aTURKISH LIRA SIGNaNORDIC MARK SIGNaMANAT SIGNaRUBLE SIGNaLARI SIGNaBITCOIN SIGNaSOM SIGN"]⟩,
    ⟨0x20D0, ["aCOMBINING LEFT HARPOON ABOVEb RIGHT HARPOON ABOVEb LONG VERTICAL LINE OVERLAY",
      "b SHORT VERTICAL LINE OVERLAYb ANTICLOCKWISE ARROW ABOVEb CLOCKWISE ARROW ABOVE",
      "b LEFT ARROW ABOVEb RIGHT ARROW ABOVEb RING OVERLAYb CLOCKWISE RING OVERLAY",
      "b ANTICLOCKWISE RING OVERLAYb THREE DOTS ABOVEb FOUR DOTS ABOVEb ENCLOSING CIRCLEc SQUARE",
      "c DIAMONDc CIRCLE BACKSLASHb LEFT RIGHT ARROW ABOVEb ENCLOSING SCREENc KEYCAP",
      "c UPWARD POINTING TRIANGLEb REVERSE SOLIDUS OVERLAYb DOUBLE VERTICAL STROKE OVERLAY",
      "b ANNUITY SYMBOLb TRIPLE UNDERDOTb WIDE BRIDGE ABOVEb LEFTWARDS ARROW OVERLAY",
      "b LONG DOUBLE SOLIDUS OVERLAYb RIGHTWARDS HARPOON WITH BARB DOWNWARDS",
      "b LEFTWARDS HARPOON WITH BARB DOWNWARDSb LEFT ARROW BELOWb RIGHT ARROW BELOW",
      "b ASTERISK ABOVE"]⟩,
    ⟨0x2100, ["aACCOUNT OFaADDRESSED TO THE SUBJECTaDOUBLE-STRUCK CAPITAL CaDEGREE CELSIUS",
      "aCENTRE LINE SYMBOLaCARE OFaCADA UNAaEULER CONSTANTaSCRUPLEaDEGREE FAHRENHEIT",
      "aSCRIPT SMALL Gb CAPITAL HaBLACK-LETTER CAPITAL HaDOUBLE-STRUCK CAPITAL HaPLANCK CONSTANT",
      "c OVER TWO PIaSCRIPT CAPITAL IaBLACK-LETTER CAPITAL IaSCRIPT CAPITAL Lb SMALL L",
      "aL B BAR SYMBOLaDOUBLE-STRUCK CAPITAL NaNUMERO SIGNaSOUND RECORDING COPYRIGHT",
      "aSCRIPT CAPITAL PaDOUBLE-STRUCK CAPITAL Pd QaSCRIPT CAPITAL RaBLACK-LETTER CAPITAL R",
      "aDOUBLE-STRUCK CAPITAL RaPRESCRIPTION TAKEaRESPONSEaSERVICE MARKaTELEPHONE SIGN",
      "aTRADE MARK SIGNaVERSICLEaDOUBLE-STRUCK CAPITAL ZaOUNCE SIGNaOHM SIGNaINVERTED OHM SIGN",
      "aBLACK-LETTER CAPITAL ZaTURNED GREEK SMALL LETTER IOTAaKELVIN SIGNaANGSTROM SIGN",
      "aSCRIPT CAPITAL BaBLACK-LETTER CAPITAL CaESTIMATED SYMBOLaSCRIPT SMALL Eb CAPITAL Ec F",
      "aTURNED CAPITAL FaSCRIPT CAPITAL Mb SMALL OaALEF SYMBOLaBET SYMBOLaGIMEL SYMBOL",
      "aDALET SYMBOLaINFORMATION SOURCEaROTATED CAPITAL QaFACSIMILE SIGNaDOUBLE-STRUCK SMALL PI",
      "d GAMMAc CAPITAL GAMMAd PIc N-ARY SUMMATIONaTURNED SANS-SERIF CAPITAL Ge L",
      "aREVERSED SANS-SERIF CAPITAL LaTURNED SANS-SERIF CAPITAL YaDOUBLE-STRUCK ITALIC CAPITAL D",
      "d SMALL De Ee Ie JaPROPERTY LINEaTURNED AMPERSANDaPER SIGNaAKTIESELSKABaTURNED SMALL F",
      "aSYMBOL FOR SAMARITAN SOURCEaVULGAR FRACTION ONE SEVENTHd NINTHd TENTHd THIRDc TWO THIRDS",
      "c ONE FIFTHc TWO FIFTHSc THREE FIFTHSc FOUR FIFTHSc ONE SIXTHc FIVE SIXTHSc ONE EIGHTH",
      "c THREE EIGHTHSc FIVE EIGHTHSc SEVEN EIGHTHSaFRACTION NUMERATOR ONEaROMAN NUMERAL ONEc TWO",
      "c THREEc FOURc FIVEc SIXc SEVENc EIGHTc NINEc TENc ELEVENc TWELVEc FIFTYc ONE HUNDRED",
      "c FIVE HUNDREDc ONE THOUSANDaSMALL ROMAN NUMERAL ONEd TWOd THREEd FOURd FIVEd SIXd SEVEN",
      "d EIGHTd NINEd TENd ELEVENd TWELVEd FIFTYd ONE HUNDREDd FIVE HUNDREDd ONE THOUSAND",
      "aROMAN NUMERAL ONE THOUSAND C Dc FIVE THOUSANDc TEN THOUSANDc REVERSED ONE HUNDRED",
      "aLATIN SMALL LETTER REVERSED CaROMAN NUMERAL SIX LATE FORMc FIFTY EARLY FORMd THOUSAND",
      "c ONE HUNDRED THOUSANDaVULGAR FRACTION ZERO THIRDSaTURNED DIGIT TWOc THREE"]⟩,
    ⟨0x2190, ["aLEFTWARDS ARROWaUPWARDS ARROWaRIGHTWARDS ARROWaDOWNWARDS ARROWaLEFT RIGHT ARROW",
      "aUP DOWN ARROWaNORTH WEST ARROWb EAST ARROWaSOUTH EAST ARROWb WEST ARROW",
      "aLEFTWARDS ARROW WITH STROKEaRIGHTWARDS ARROW WITH STROKEaLEFTWARDS WAVE ARROW",
      "aRIGHTWARDS WAVE ARROWaLEFTWARDS TWO HEADED ARROWaUPWARDS TWO HEADED ARROW",
      "aRIGHTWARDS TWO HEADED ARROWaDOWNWARDS TWO HEADED ARROWaLEFTWARDS ARROW WITH TAIL",
      "aRIGHTWARDS ARROW WITH TAILaLEFTWARDS ARROW FROM BARaUPWARDS ARROW FROM BAR",
      "aRIGHTWARDS ARROW FROM BARaDOWNWARDS ARROW FROM BARaUP DOWN ARROW WITH BASE",
      "aLEFTWARDS ARROW WITH HOOKaRIGHTWARDS ARROW WITH HOOKaLEFTWARDS ARROW WITH LOOP",
      "aRIGHTWARDS ARROW WITH LOOPaLEFT RIGHT WAVE ARROWc ARROW WITH STROKEaDOWNWARDS ZIGZAG ARROW",
      "aUPWARDS ARROW WITH TIP LEFTWARDSe RIGHTWARDSaDOWNWARDS ARROW WITH TIP LEFTWARDS",
      "e RIGHTWARDSaRIGHTWARDS ARROW WITH CORNER DOWNWARDSaDOWNWARDS ARROW WITH CORNER LEFTWARDS",
      "aANTICLOCKWISE TOP SEMICIRCLE ARROWaCLOCKWISE TOP SEMICIRCLE ARROW",
      "aNORTH WEST ARROW TO LONG BARaLEFTWARDS ARROW TO BAR OVER RIGHTWARDS ARROW TO BAR",
      "aANTICLOCKWISE OPEN CIRCLE ARROWaCLOCKWISE OPEN CIRCLE ARROW",
      "aLEFTWARDS HARPOON WITH BARB UPWARDSe DOWNWARDSaUPWARDS HARPOON WITH BARB RIGHTWARDS",
      "e LEFTWARDSaRIGHTWARDS HARPOON WITH BARB UPWARDSe DOWNWARDS",
      "aDOWNWARDS HARPOON WITH BARB RIGHTWARDSe LEFTWARDSaRIGHTWARDS ARROW OVER LEFTWARDS ARROW",
      "aUPWARDS ARROW LEFTWARDS OF DOWNWARDS ARROWaLEFTWARDS ARROW OVER RIGHTWARDS ARROW",
      "b PAIRED ARROWSaUPWARDS PAIRED ARROWSaRIGHTWARDS PAIRED ARROWSaDOWNWARDS PAIRED ARROWS",
      "aLEFTWARDS HARPOON OVER RIGHTWARDS HARPOONaRIGHTWARDS HARPOON OVER LEFTWARDS HARPOON",
      "aLEFTWARDS DOUBLE ARROW WITH STROKEaLEFT RIGHT DOUBLE ARROW WITH STROKE",
      "aRIGHTWARDS DOUBLE ARROW WITH STROKEaLEFTWARDS DOUBLE ARROWaUPWARDS DOUBLE ARROW",
      "aRIGHTWARDS DOUBLE ARROWaDOWNWARDS DOUBLE ARROWaLEFT RIGHT DOUBLE ARROW",
      "aUP DOWN DOUBLE ARROWaNORTH WEST DOUBLE ARROWb EAST DOUBLE ARROWaSOUTH EAST DOUBLE ARROW",
      "b WEST DOUBLE ARROWaLEFTWARDS TRIPLE ARROWaRIGHTWARDS TRIPLE ARROWaLEFTWARDS SQUIGGLE ARROW",
      "aRIGHTWARDS SQUIGGLE ARROWaUPWARDS ARROW WITH DOUBLE STROKE",
      "aDOWNWARDS ARROW WITH DOUBLE STROKEaLEFTWARDS DASHED ARROWaUPWARDS DASHED ARROW",
      "aRIGHTWARDS DASHED ARROWaDOWNWARDS DASHED ARROWaLEFTWARDS ARROW TO BAR",
      "aRIGHTWARDS ARROW TO BARaLEFTWARDS WHITE ARROWaUPWARDS WHITE ARROWaRIGHTWARDS WHITE ARROW",
      "aDOWNWARDS WHITE ARROWaUPWARDS WHITE ARROW FROM BARd ON PEDESTALf WITH HORIZONTAL BAR",
      "g VERTICAL BARc DOUBLE ARROWe ON PEDESTALaRIGHTWARDS WHITE ARROW FROM WALL",
      "aNORTH WEST ARROW TO CORNERaSOUTH EAST ARROW TO CORNERaUP DOWN WHITE ARROW",
      "aRIGHT ARROW WITH SMALL CIRCLEaDOWNWARDS ARROW LEFTWARDS OF UPWARDS ARROW",
      "aTHREE RIGHTWARDS ARROWSaLEFTWARDS ARROW WITH VERTICAL STROKE",
      "aRIGHTWARDS ARROW WITH VERTICAL STROKEaLEFT RIGHT ARROW WITH VERTICAL STROKE",
      "aLEFTWARDS ARROW WITH DOUBLE VERTICAL STROKEaRIGHTWARDS ARROW WITH DOUBLE VERTICAL STROKE",
      "aLEFT RIGHT ARROW WITH DOUBLE VERTICAL STROKEaLEFTWARDS OPEN-HEADED ARROW",
      "aRIGHTWARDS OPEN-HEADED ARROWaLEFT RIGHT OPEN-HEADED ARROWaFOR ALLaCOMPLEMENT",
      "aPARTIAL DIFFERENTIALaTHERE EXISTSb DOES NOT EXISTaEMPTY SETaINCREMENTaNABLAaELEMENT OF",
      "aNOT AN ELEMENT OFaSMALL ELEMENT OFaCONTAINS AS MEMBERaDOES NOT CONTAIN AS MEMBER",
      "aSMALL CONTAINS AS MEMBERaEND OF PROOFaN-ARY PRODUCTc COPRODUCTc SUMMATIONaMINUS SIGN",
      "b-OR-PLUS SIGNaDOT PLUSaDIVISION SLASHaSET MINUSaASTERISK OPERATORaRING OPERATOR",
      "aBULLET OPERATORaSQUARE ROOTaCUBE ROOTaFOURTH ROOTaPROPORTIONAL TOaINFINITYaRIGHT ANGLE",
      "aANGLEaMEASURED ANGLEaSPHERICAL ANGLEaDIVIDESaDOES NOT DIVIDEaPARALLEL TOaNOT PARALLEL TO",
      "aLOGICAL ANDb ORaINTERSECTIONaUNIONaINTEGRALaDOUBLE INTEGRALaTRIPLE INTEGRAL",
      "aCONTOUR INTEGRALaSURFACE INTEGRALaVOLUME INTEGRALaCLOCKWISE INTEGRALb CONTOUR INTEGRAL",
      "aANTICLOCKWISE CONTOUR INTEGRALaTHEREFOREaBECAUSEaRATIOaPROPORTIONaDOT MINUSaEXCESS",
      "aGEOMETRIC PROPORTIONaHOMOTHETICaTILDE OPERATORaREVERSED TILDEaINVERTED LAZY SaSINE WAVE",
      "aWREATH PRODUCTaNOT TILDEaMINUS TILDEaASYMPTOTICALLY EQUAL TOaNOT ASYMPTOTICALLY EQUAL TO",
      "aAPPROXIMATELY EQUAL TOb BUT NOT ACTUALLY EQUAL TO",
      "aNEITHER APPROXIMATELY NOR ACTUALLY EQUAL TOaALMOST EQUAL TOaNOT ALMOST EQUAL TO",
      "aALMOST EQUAL OR EQUAL TOaTRIPLE TILDEaALL EQUAL TOaEQUIVALENT TO",
      "aGEOMETRICALLY EQUIVALENT TOaDIFFERENCE BETWEENaAPPROACHES THE LIMITaGEOMETRICALLY EQUAL TO",
      "aAPPROXIMATELY EQUAL TO OR THE IMAGE OFaIMAGE OF OR APPROXIMATELY EQUAL TOaCOLON EQUALS",
      "aEQUALS COLONaRING IN EQUAL TOb EQUAL TOaCORRESPONDS TOaESTIMATESaEQUIANGULAR TO",
      "aSTAR EQUALSaDELTA EQUAL TOaEQUAL TO BY DEFINITIONaMEASURED BYaQUESTIONED EQUAL TO",
      "aNOT EQUAL TOaIDENTICAL TOaNOT IDENTICAL TOaSTRICTLY EQUIVALENT TOaLESS-THAN OR EQUAL TO",
      "aGREATER-THAN OR EQUAL TOaLESS-THAN OVER EQUAL TOaGREATER-THAN OVER EQUAL TO",
      "aLESS-THAN BUT NOT EQUAL TOaGREATER-THAN BUT NOT EQUAL TOaMUCH LESS-THANb GREATER-THAN",
      "aBETWEENaNOT EQUIVALENT TOb LESS-THANb GREATER-THANaNEITHER LESS-THAN NOR EQUAL TO",
      "b GREATER-THAN NOR EQUAL TOaLESS-THAN OR EQUIVALENT TOaGREATER-THAN OR EQUIVALENT TO",
      "aNEITHER LESS-THAN NOR EQUIVALENT TOb GREATER-THAN NOR EQUIVALENT TO",
      "aLESS-THAN OR GREATER-THANaGREATER-THAN OR LESS-THANaNEITHER LESS-THAN NOR GREATER-THAN",
      "b GREATER-THAN NOR LESS-THANaPRECEDESaSUCCEEDSaPRECEDES OR EQUAL TOaSUCCEEDS OR EQUAL TO",
      "aPRECEDES OR EQUIVALENT TOaSUCCEEDS OR EQUIVALENT TOaDOES NOT PRECEDEc SUCCEEDaSUBSET OF",
      "aSUPERSET OFaNOT A SUBSET OFc SUPERSET OFaSUBSET OF OR EQUAL TOaSUPERSET OF OR EQUAL TO",
      "aNEITHER A SUBSET OF NOR EQUAL TOc SUPERSET OF NOR EQUAL TOaSUBSET OF WITH NOT EQUAL TO",
      "aSUPERSET OF WITH NOT EQUAL TOaMULTISETb MULTIPLICATIONb UNIONaSQUARE IMAGE OFb ORIGINAL OF",
      "b IMAGE OF OR EQUAL TOb ORIGINAL OF OR EQUAL TOb CAPb CUPaCIRCLED PLUSb MINUSb TIMES",
      "b DIVISION SLASHb DOT OPERATORb RING OPERATORb ASTERISK OPERATORb EQUALSb DASHaSQUARED PLUS",
      "b MINUSb TIMESb DOT OPERATORaRIGHT TACKaLEFT TACKaDOWN TACKaUP TACKaASSERTIONaMODELSaTRUE",
      "aFORCESaTRIPLE VERTICAL BAR RIGHT TURNSTILEaDOUBLE VERTICAL BAR DOUBLE RIGHT TURNSTILE",
      "aDOES NOT PROVEaNOT TRUEaDOES NOT FORCEaNEGATED DOUBLE VERTICAL BAR DOUBLE RIGHT TURNSTILE",
      "aPRECEDES UNDER RELATIONaSUCCEEDS UNDER RELATIONaNORMAL SUBGROUP OF",
      "aCONTAINS AS NORMAL SUBGROUPaNORMAL SUBGROUP OF OR EQUAL TO",
      "aCONTAINS AS NORMAL SUBGROUP OR EQUAL TOaORIGINAL OFaIMAGE OFaMULTIMAP",
      "aHERMITIAN CONJUGATE MATRIXaINTERCALATEaXORaNANDaNORaRIGHT ANGLE WITH ARCb TRIANGLE",
      "aN-ARY LOGICAL ANDd ORc INTERSECTIONc UNIONaDIAMOND OPERATORaDOT OPERATORaSTAR OPERATOR",
      "aDIVISION TIMESaBOWTIEaLEFT NORMAL FACTOR SEMIDIRECT PRODUCT",
      "aRIGHT NORMAL FACTOR SEMIDIRECT PRODUCTaLEFT SEMIDIRECT PRODUCTaRIGHT SEMIDIRECT PRODUCT",
      "aREVERSED TILDE EQUALSaCURLY LOGICAL ORc ANDaDOUBLE SUBSETb SUPERSETb INTERSECTIONb UNION",
      "aPITCHFORKaEQUAL AND PARALLEL TOaLESS-THAN WITH DOTaGREATER-THAN WITH DOT",
      "aVERY MUCH LESS-THANc GREATER-THANaLESS-THAN EQUAL TO OR GREATER-THAN",
      "aGREATER-THAN EQUAL TO OR LESS-THANaEQUAL TO OR LESS-THANd GREATER-THANd PRECEDESd SUCCEEDS",
      "aDOES NOT PRECEDE OR EQUALc SUCCEED OR EQUALaNOT SQUARE IMAGE OF OR EQUAL TO",
      "c ORIGINAL OF OR EQUAL TOaSQUARE IMAGE OF OR NOT EQUAL TOb ORIGINAL OF OR NOT EQUAL TO",
      "aLESS-THAN BUT NOT EQUIVALENT TOaGREATER-THAN BUT NOT EQUIVALENT TO",
      "aPRECEDES BUT NOT EQUIVALENT TOaSUCCEEDS BUT NOT EQUIVALENT TOaNOT NORMAL SUBGROUP OF",
      "aDOES NOT CONTAIN AS NORMAL SUBGROUPaNOT NORMAL SUBGROUP OF OR EQUAL TO",
      "aDOES NOT CONTAIN AS NORMAL SUBGROUP OR EQUALaVERTICAL ELLIPSISaMIDLINE HORIZONTAL ELLIPSIS",
      "aUP RIGHT DIAGONAL ELLIPSISaDOWN RIGHT DIAGONAL ELLIPSIS",
      "aELEMENT OF WITH LONG HORIZONTAL STROKEd VERTICAL BAR AT END OF HORIZONTAL STROKE",
      "aSMALL ELEMENT OF WITH VERTICAL BAR AT END OF HORIZONTAL STROKEaELEMENT OF WITH DOT ABOVE",
      "d OVERBARaSMALL ELEMENT OF WITH OVERBARaELEMENT OF WITH UNDERBARd TWO HORIZONTAL STROKES",
      "aCONTAINS WITH LONG HORIZONTAL STROKEc VERTICAL BAR AT END OF HORIZONTAL STROKE",
      "aSMALL CONTAINS WITH VERTICAL BAR AT END OF HORIZONTAL STROKEaCONTAINS WITH OVERBAR",
      "aSMALL CONTAINS WITH OVERBARaZ NOTATION BAG MEMBERSHIPaDIAMETER SIGNaELECTRIC ARROWaHOUSE",
      "aUP ARROWHEADaDOWN ARROWHEADaPROJECTIVEaPERSPECTIVEaWAVY LINEaLEFT CEILINGaRIGHT CEILING",
      "aLEFT FLOORaRIGHT FLOORaBOTTOM RIGHT CROPb LEFT CROPaTOP RIGHT CROPb LEFT CROP",
      "aREVERSED NOT SIGNaSQUARE LOZENGEaARCaSEGMENTaSECTORaTELEPHONE RECORDERaPOSITION INDICATOR",
      "aVIEWDATA SQUAREaPLACE OF INTEREST SIGNaTURNED NOT SIGNaWATCHaHOURGLASSaTOP LEFT CORNER",
      "b RIGHT CORNERaBOTTOM LEFT CORNERb RIGHT CORNERaTOP HALF INTEGRALaBOTTOM HALF INTEGRAL",
      "aFROWNaSMILEaUP ARROWHEAD BETWEEN TWO HORIZONTAL BARSaOPTION KEYaERASE TO THE RIGHT",
      "aX IN A RECTANGLE BOXaKEYBOARDaLEFT-POINTING ANGLE BRACKETaRIGHT-POINTING ANGLE BRACKET",
      "aERASE TO THE LEFTaBENZENE RINGaCYLINDRICITYaALL AROUND-PROFILEaSYMMETRYaTOTAL RUNOUT",
      "aDIMENSION ORIGINaCONICAL TAPERaSLOPEaCOUNTERBOREaCOUNTERSINKaAPL FUNCTIONAL SYMBOL I-BEAM",
      "d SQUISH QUADd QUAD EQUALe DIVIDEe DIAMONDe JOTe CIRCLEd CIRCLE STILEe JOTd SLASH BAR",
      "d BACKSLASH BARd QUAD SLASHe BACKSLASHe LESS-THANe GREATER-THANd LEFTWARDS VANE",
      "d RIGHTWARDS VANEd QUAD LEFTWARDS ARROWe RIGHTWARDS ARROWd CIRCLE BACKSLASH",
      "d DOWN TACK UNDERBARd DELTA STILEd QUAD DOWN CARETe DELTAd DOWN TACK JOTd UPWARDS VANE",
      "d QUAD UPWARDS ARROWd UP TACK OVERBARd DEL STILEd QUAD UP CARETe DELd UP TACK JOT",
      "d DOWNWARDS VANEd QUAD DOWNWARDS ARROWd QUOTE UNDERBARd DELTA UNDERBARd DIAMOND UNDERBAR",
      "d JOT UNDERBARd CIRCLE UNDERBARd UP SHOE JOTd QUOTE QUADd CIRCLE STARd QUAD COLON",
      "d UP TACK DIAERESISd DEL DIAERESISd STAR DIAERESISd JOT DIAERESISd CIRCLE DIAERESIS",
      "d DOWN SHOE STILEd LEFT SHOE STILEd TILDE DIAERESISd GREATER-THAN DIAERESISd COMMA BAR",
      "d DEL TILDEd ZILDEd STILE TILDEd SEMICOLON UNDERBARd QUAD NOT EQUALe QUESTION",
      "d DOWN CARET TILDEd UP CARET TILDEd IOTAd RHOd OMEGAd ALPHA UNDERBARd EPSILON UNDERBAR",
      "d IOTA UNDERBARd OMEGA UNDERBARd ALPHAaNOT CHECK MARK",
      "aRIGHT ANGLE WITH DOWNWARDS ZIGZAG ARROWaSHOULDERED OPEN BOXaBELL SYMBOL",
      "aVERTICAL LINE WITH MIDDLE DOTaINSERTION SYMBOLaCONTINUOUS UNDERLINE SYMBOL",
      "aDISCONTINUOUS UNDERLINE SYMBOLaEMPHASIS SYMBOLaCOMPOSITION SYMBOL",
      "aWHITE SQUARE WITH CENTRE VERTICAL LINEaENTER SYMBOLaALTERNATIVE KEY SYMBOLaHELM SYMBOL",
      "aCIRCLED HORIZONTAL BAR WITH NOTCHb TRIANGLE DOWNaBROKEN CIRCLE WITH NORTHWEST ARROW",
      "aUNDO SYMBOLaMONOSTABLE SYMBOLaHYSTERESIS SYMBOLaOPEN-CIRCUIT-OUTPUT H-TYPE SYMBOL",
      "d L-TYPE SYMBOLaPASSIVE-PULL-DOWN-OUTPUT SYMBOLc-UP-OUTPUT SYMBOL",
      "aDIRECT CURRENT SYMBOL FORM TWOaSOFTWARE-FUNCTION SYMBOLaAPL FUNCTIONAL SYMBOL QUAD",
      "aDECIMAL SEPARATOR KEY SYMBOLaPREVIOUS PAGEaNEXT PAGEaPRINT SCREEN SYMBOL",
      "aCLEAR SCREEN SYMBOLaLEFT PARENTHESIS UPPER HOOKc EXTENSIONc LOWER HOOK",
      "aRIGHT PARENTHESIS UPPER HOOKc EXTENSIONc LOWER HOOKaLEFT SQUARE BRACKET UPPER CORNER",
      "d EXTENSIONd LOWER CORNERaRIGHT SQUARE BRACKET UPPER CORNERd EXTENSIONd LOWER CORNER",
      "aLEFT CURLY BRACKET UPPER HOOKd MIDDLE PIECEd LOWER HOOKaCURLY BRACKET EXTENSION",
      "aRIGHT CURLY BRACKET UPPER HOOKd MIDDLE PIECEd LOWER HOOKaINTEGRAL EXTENSION",
      "aHORIZONTAL LINE EXTENSIONaUPPER LEFT OR LOWER RIGHT CURLY BRACKET SECTION",
      "b RIGHT OR LOWER LEFT CURLY BRACKET SECTIONaSUMMATION TOPb BOTTOMaTOP SQUARE BRACKET",
      "aBOTTOM SQUARE BRACKETd OVER TOP SQUARE BRACKETaRADICAL SYMBOL BOTTOM",
      "aLEFT VERTICAL BOX LINEaRIGHT VERTICAL BOX LINEaHORIZONTAL SCAN LINE-1d-3d-7d-9",
      "aDENTISTRY SYMBOL LIGHT VERTICAL AND TOP RIGHTf BOTTOM RIGHTe WITH CIRCLE",
      "d DOWN AND HORIZONTAL WITH CIRCLEd UP AND HORIZONTAL WITH CIRCLEd VERTICAL WITH TRIANGLE",
      "d DOWN AND HORIZONTAL WITH TRIANGLEd UP AND HORIZONTAL WITH TRIANGLEd VERTICAL AND WAVE",
      "d DOWN AND HORIZONTAL WITH WAVEd UP AND HORIZONTAL WITH WAVEd DOWN AND HORIZONTAL",
      "d UP AND HORIZONTALd VERTICAL AND TOP LEFTf BOTTOM LEFTaSQUARE FOOTaRETURN SYMBOL",
      "aEJECT SYMBOLaVERTICAL LINE EXTENSIONaMETRICAL BREVEb LONG OVER SHORTb SHORT OVER LONG",
      "b LONG OVER TWO SHORTSb TWO SHORTS OVER LONGd JOINEDb TRISEMEb TETRASEMEb PENTASEME",
      "aEARTH GROUNDaFUSEaTOP PARENTHESISaBOTTOM PARENTHESISaTOP CURLY BRACKET",
      "aBOTTOM CURLY BRACKETaTOP TORTOISE SHELL BRACKETaBOTTOM TORTOISE SHELL BRACKET",
      "aWHITE TRAPEZIUMaBENZENE RING WITH CIRCLEaSTRAIGHTNESSaFLATNESSaAC CURRENT",
      "aELECTRICAL INTERSECTIONaDECIMAL EXPONENT SYMBOLaBLACK RIGHT-POINTING DOUBLE TRIANGLE",
      "b LEFT-POINTING DOUBLE TRIANGLEb UP-POINTING DOUBLE TRIANGLEb DOWN-POINTING DOUBLE TRIANGLE",
      "b RIGHT-POINTING DOUBLE TRIANGLE WITH VERTICAL BAR",
      "b LEFT-POINTING DOUBLE TRIANGLE WITH VERTICAL BAR",
      "b RIGHT-POINTING TRIANGLE WITH DOUBLE VERTICAL BARaALARM CLOCKaSTOPWATCHaTIMER CLOCK",
      "aHOURGLASS WITH FLOWING SANDaBLACK MEDIUM LEFT-POINTING TRIANGLEc RIGHT-POINTING TRIANGLE",
      "c UP-POINTING TRIANGLEc DOWN-POINTING TRIANGLEaDOUBLE VERTICAL BARaBLACK SQUARE FOR STOP",
      "b CIRCLE FOR RECORDaPOWER SYMBOLb ON-OFF SYMBOLc SYMBOLb SLEEP SYMBOLaOBSERVER EYE SYMBOL",
      "aSYMBOL FOR NULLc START OF HEADINGe TEXTc END OF TEXTe TRANSMISSIONc ENQUIRYc ACKNOWLEDGE",
      "c BELLc BACKSPACEc HORIZONTAL TABULATIONc LINE FEEDc VERTICAL TABULATIONc FORM FEED",
      "c CARRIAGE RETURNc SHIFT OUTd INc DATA LINK ESCAPEc DEVICE CONTROL ONEe TWOe THREEe FOUR",
      "c NEGATIVE ACKNOWLEDGEc SYNCHRONOUS IDLEc END OF TRANSMISSION BLOCKc CANCELc END OF MEDIUM",
      "c SUBSTITUTEc ESCAPEc FILE SEPARATORc GROUP SEPARATORc RECORD SEPARATORc UNIT SEPARATOR",
      "c SPACEc DELETEaBLANK SYMBOLaOPEN BOXaSYMBOL FOR NEWLINEc DELETE FORM TWO",
      "c SUBSTITUTE FORM TWO"]⟩,
    ⟨0x2440, ["aOCR HOOKb CHAIRb FORKb INVERTED FORKb BELT BUCKLEb BOW TIE",
      "b BRANCH BANK IDENTIFICATIONb AMOUNT OF CHECKb DASHb CUSTOMER ACCOUNT NUMBER",
      "b DOUBLE BACKSLASH"]⟩,
    ⟨0x2460, ["aCIRCLED DIGIT ONEc TWOc THREEc FOURc FIVEc SIXc SEVENc EIGHTc NINEb NUMBER TEN",
      "c ELEVENc TWELVEc THIRTEENc FOURTEENc FIFTEENc SIXTEENc SEVENTEENc EIGHTEENc NINETEEN",
      "c TWENTYaPARENTHESIZED DIGIT ONEc TWOc THREEc FOURc FIVEc SIXc SEVENc EIGHTc NINE",
      "b NUMBER TENc ELEVENc TWELVEc THIRTEENc FOURTEENc FIFTEENc SIXTEENc SEVENTEENc EIGHTEEN",
      "c NINETEENc TWENTYaDIGIT ONE FULL STOPb TWO FULL STOPb THREE FULL STOPb FOUR FULL STOP",
      "b FIVE FULL STOPb SIX FULL STOPb SEVEN FULL STOPb EIGHT FULL STOPb NINE FULL STOP",
      "aNUMBER TEN FULL STOPb ELEVEN FULL STOPb TWELVE FULL STOPb THIRTEEN FULL STOP",
      "b FOURTEEN FULL STOPb FIFTEEN FULL STOPb SIXTEEN FULL STOPb SEVENTEEN FULL STOP",
      "b EIGHTEEN FULL STOPb NINETEEN FULL STOPb TWENTY FULL STOP",
      "aPARENTHESIZED LATIN SMALL LETTER Ae Be Ce De Ee Fe Ge He Ie Je Ke Le Me Ne Oe Pe Qe Re S",
      "e Te Ue Ve We Xe Ye ZaCIRCLED LATIN CAPITAL LETTER Ae Be Ce De Ee Fe Ge He Ie Je Ke Le Me N",
      "e Oe Pe Qe Re Se Te Ue Ve We Xe Ye Zc SMALL LETTER Ae Be Ce De Ee Fe Ge He Ie Je Ke Le Me N",
      "e Oe Pe Qe Re Se Te Ue Ve We Xe Ye Zb DIGIT ZEROaNEGATIVE CIRCLED NUMBER ELEVENd TWELVE",
      "d THIRTEENd FOURTEENd FIFTEENd SIXTEENd SEVENTEENd EIGHTEENd NINETEENd TWENTY",
      "aDOUBLE CIRCLED DIGIT ONEd TWOd THREEd FOURd FIVEd SIXd SEVENd EIGHTd NINEc NUMBER TEN",
      "aNEGATIVE CIRCLED DIGIT ZEROaBOX DRAWINGS LIGHT HORIZONTALc HEAVY HORIZONTAL",
      "c LIGHT VERTICALc HEAVY VERTICALc LIGHT TRIPLE DASH HORIZONTAL",
      "c HEAVY TRIPLE DASH HORIZONTALc LIGHT TRIPLE DASH VERTICALc HEAVY TRIPLE DASH VERTICAL",
      "c LIGHT QUADRUPLE DASH HORIZONTALc HEAVY QUADRUPLE DASH HORIZONTAL",
      "c LIGHT QUADRUPLE DASH VERTICALc HEAVY QUADRUPLE DASH VERTICALc LIGHT DOWN AND RIGHT",
      "c DOWN LIGHT AND RIGHT HEAVYd HEAVY AND RIGHT LIGHTc HEAVY DOWN AND RIGHT",
      "c LIGHT DOWN AND LEFTc DOWN LIGHT AND LEFT HEAVYd HEAVY AND LEFT LIGHTc HEAVY DOWN AND LEFT",
      "c LIGHT UP AND RIGHTc UP LIGHT AND RIGHT HEAVYd HEAVY AND RIGHT LIGHTc HEAVY UP AND RIGHT",
      "c LIGHT UP AND LEFTc UP LIGHT AND LEFT HEAVYd HEAVY AND LEFT LIGHTc HEAVY UP AND LEFT",
      "c LIGHT VERTICAL AND RIGHTc VERTICAL LIGHT AND RIGHT HEAVYc UP HEAVY AND RIGHT DOWN LIGHT",
      "c DOWN HEAVY AND RIGHT UP LIGHTc VERTICAL HEAVY AND RIGHT LIGHT",
      "c DOWN LIGHT AND RIGHT UP HEAVYc UP LIGHT AND RIGHT DOWN HEAVYc HEAVY VERTICAL AND RIGHT",
      "c LIGHT VERTICAL AND LEFTc VERTICAL LIGHT AND LEFT HEAVYc UP HEAVY AND LEFT DOWN LIGHT",
      "c DOWN HEAVY AND LEFT UP LIGHTc VERTICAL HEAVY AND LEFT LIGHTc DOWN LIGHT AND LEFT UP HEAVY",
      "c UP LIGHT AND LEFT DOWN HEAVYc HEAVY VERTICAL AND LEFTc LIGHT DOWN AND HORIZONTAL",
      "c LEFT HEAVY AND RIGHT DOWN LIGHTc RIGHT HEAVY AND LEFT DOWN LIGHT",
      "c DOWN LIGHT AND HORIZONTAL HEAVYd HEAVY AND HORIZONTAL LIGHT",
      "c RIGHT LIGHT AND LEFT DOWN HEAVYc LEFT LIGHT AND RIGHT DOWN HEAVY",
      "c HEAVY DOWN AND HORIZONTALc LIGHT UP AND HORIZONTALc LEFT HEAVY AND RIGHT UP LIGHT",
      "c RIGHT HEAVY AND LEFT UP LIGHTc UP LIGHT AND HORIZONTAL HEAVYd HEAVY AND HORIZONTAL LIGHT",
      "c RIGHT LIGHT AND LEFT UP HEAVYc LEFT LIGHT AND RIGHT UP HEAVYc HEAVY UP AND HORIZONTAL",
      "c LIGHT VERTICAL AND HORIZONTALc LEFT HEAVY AND RIGHT VERTICAL LIGHT",
      "c RIGHT HEAVY AND LEFT VERTICAL LIGHTc VERTICAL LIGHT AND HORIZONTAL HEAVY",
      "c UP HEAVY AND DOWN HORIZONTAL LIGHTc DOWN HEAVY AND UP HORIZONTAL LIGHT",
      "c VERTICAL HEAVY AND HORIZONTAL LIGHTc LEFT UP HEAVY AND RIGHT DOWN LIGHT",
      "c RIGHT UP HEAVY AND LEFT DOWN LIGHTc LEFT DOWN HEAVY AND RIGHT UP LIGHT",
      "c RIGHT DOWN HEAVY AND LEFT UP LIGHTc DOWN LIGHT AND UP HORIZONTAL HEAVY",
      "c UP LIGHT AND DOWN HORIZONTAL HEAVYc RIGHT LIGHT AND LEFT VERTICAL HEAVY",
      "c LEFT LIGHT AND RIGHT VERTICAL HEAVYc HEAVY VERTICAL AND HORIZONTAL",
      "c LIGHT DOUBLE DASH HORIZONTALc HEAVY DOUBLE DASH HORIZONTALc LIGHT DOUBLE DASH VERTICAL",
      "c HEAVY DOUBLE DASH VERTICALc DOUBLE HORIZONTALd VERTICALc DOWN SINGLE AND RIGHT DOUBLE",
      "d DOUBLE AND RIGHT SINGLEc DOUBLE DOWN AND RIGHTc DOWN SINGLE AND LEFT DOUBLE",
      "d DOUBLE AND LEFT SINGLEc DOUBLE DOWN AND LEFTc UP SINGLE AND RIGHT DOUBLE",
      "d DOUBLE AND RIGHT SINGLEc DOUBLE UP AND RIGHTc UP SINGLE AND LEFT DOUBLE",
      "d DOUBLE AND LEFT SINGLEc DOUBLE UP AND LEFTc VERTICAL SINGLE AND RIGHT DOUBLE",
      "d DOUBLE AND RIGHT SINGLEc DOUBLE VERTICAL AND RIGHTc VERTICAL SINGLE AND LEFT DOUBLE",
      "d DOUBLE AND LEFT SINGLEc DOUBLE VERTICAL AND LEFTc DOWN SINGLE AND HORIZONTAL DOUBLE",
      "d DOUBLE AND HORIZONTAL SINGLEc DOUBLE DOWN AND HORIZONTALc UP SINGLE AND HORIZONTAL DOUBLE",
      "d DOUBLE AND HORIZONTAL SINGLEc DOUBLE UP AND HORIZONTAL",
      "c VERTICAL SINGLE AND HORIZONTAL DOUBLEd DOUBLE AND HORIZONTAL SINGLE",
      "c DOUBLE VERTICAL AND HORIZONTALc LIGHT ARC DOWN AND RIGHTg LEFTe UP AND LEFTg RIGHT",
      "d DIAGONAL UPPER RIGHT TO LOWER LEFTf LEFT TO LOWER RIGHTe CROSSd LEFTd UPd RIGHTd DOWN",
      "c HEAVY LEFTd UPd RIGHTd DOWNc LIGHT LEFT AND HEAVY RIGHTd UP AND HEAVY DOWN",
      "c HEAVY LEFT AND LIGHT RIGHTd UP AND LIGHT DOWNaUPPER HALF BLOCKaLOWER ONE EIGHTH BLOCK",
      "c QUARTER BLOCKb THREE EIGHTHS BLOCKb HALF BLOCKb FIVE EIGHTHS BLOCKb THREE QUARTERS BLOCK",
      "b SEVEN EIGHTHS BLOCKaFULL BLOCKaLEFT SEVEN EIGHTHS BLOCKb THREE QUARTERS BLOCK",
      "b FIVE EIGHTHS BLOCKb HALF BLOCKb THREE EIGHTHS BLOCKb ONE QUARTER BLOCKc EIGHTH BLOCK",
      "aRIGHT HALF BLOCKaLIGHT SHADEaMEDIUM SHADEaDARK SHADEaUPPER ONE EIGHTH BLOCK",
      "aRIGHT ONE EIGHTH BLOCKaQUADRANT LOWER LEFTc RIGHTb UPPER LEFT",
      "d AND LOWER LEFT AND LOWER RIGHTf RIGHTe UPPER RIGHT AND LOWER LEFTi RIGHTc RIGHT",
      "d AND LOWER LEFTg AND LOWER RIGHTaBLACK SQUAREaWHITE SQUAREc WITH ROUNDED CORNERS",
      "c CONTAINING BLACK SMALL SQUAREaSQUARE WITH HORIZONTAL FILLc VERTICAL FILL",
      "c ORTHOGONAL CROSSHATCH FILLc UPPER LEFT TO LOWER RIGHT FILLd RIGHT TO LOWER LEFT FILL",
      "c DIAGONAL CROSSHATCH FILLaBLACK SMALL SQUAREaWHITE SMALL SQUAREaBLACK RECTANGLE",
      "aWHITE RECTANGLEaBLACK VERTICAL RECTANGLEaWHITE VERTICAL RECTANGLEaBLACK PARALLELOGRAM",
      "aWHITE PARALLELOGRAMaBLACK UP-POINTING TRIANGLEaWHITE UP-POINTING TRIANGLE",
      "aBLACK UP-POINTING SMALL TRIANGLEaWHITE UP-POINTING SMALL TRIANGLE",
      "aBLACK RIGHT-POINTING TRIANGLEaWHITE RIGHT-POINTING TRIANGLE",
      "aBLACK RIGHT-POINTING SMALL TRIANGLEaWHITE RIGHT-POINTING SMALL TRIANGLE",
      "aBLACK RIGHT-POINTING POINTERaWHITE RIGHT-POINTING POINTERaBLACK DOWN-POINTING TRIANGLE",
      "aWHITE DOWN-POINTING TRIANGLEaBLACK DOWN-POINTING SMALL TRIANGLE",
      "aWHITE DOWN-POINTING SMALL TRIANGLEaBLACK LEFT-POINTING TRIANGLE",
      "aWHITE LEFT-POINTING TRIANGLEaBLACK LEFT-POINTING SMALL TRIANGLE",
      "aWHITE LEFT-POINTING SMALL TRIANGLEaBLACK LEFT-POINTING POINTERaWHITE LEFT-POINTING POINTER",
      "aBLACK DIAMONDaWHITE DIAMONDc CONTAINING BLACK SMALL DIAMONDaFISHEYEaLOZENGEaWHITE CIRCLE",
      "aDOTTED CIRCLEaCIRCLE WITH VERTICAL FILLaBULLSEYEaBLACK CIRCLEaCIRCLE WITH LEFT HALF BLACK",
      "c RIGHT HALF BLACKc LOWER HALF BLACKc UPPER HALF BLACKd RIGHT QUADRANT BLACK",
      "c ALL BUT UPPER LEFT QUADRANT BLACKaLEFT HALF BLACK CIRCLEaRIGHT HALF BLACK CIRCLE",
      "aINVERSE BULLETb WHITE CIRCLEaUPPER HALF INVERSE WHITE CIRCLE",
      "aLOWER HALF INVERSE WHITE CIRCLEaUPPER LEFT QUADRANT CIRCULAR ARC",
      "b RIGHT QUADRANT CIRCULAR ARCaLOWER RIGHT QUADRANT CIRCULAR ARCb LEFT QUADRANT CIRCULAR ARC",
      "aUPPER HALF CIRCLEaLOWER HALF CIRCLEaBLACK LOWER RIGHT TRIANGLEc LEFT TRIANGLE",
      "b UPPER LEFT TRIANGLEc RIGHT TRIANGLEaWHITE BULLETaSQUARE WITH LEFT HALF BLACK",
      "c RIGHT HALF BLACKc UPPER LEFT DIAGONAL HALF BLACKc LOWER RIGHT DIAGONAL HALF BLACK",
      "aWHITE SQUARE WITH VERTICAL BISECTING LINEb UP-POINTING TRIANGLE WITH DOT",
      "aUP-POINTING TRIANGLE WITH LEFT HALF BLACKe RIGHT HALF BLACKaLARGE CIRCLE",
      "aWHITE SQUARE WITH UPPER LEFT QUADRANTd LOWER LEFT QUADRANTe RIGHT QUADRANT",
      "d UPPER RIGHT QUADRANTb CIRCLE WITH UPPER LEFT QUADRANTd LOWER LEFT QUADRANT",
      "e RIGHT QUADRANTd UPPER RIGHT QUADRANTaUPPER LEFT TRIANGLEb RIGHT TRIANGLE",
      "aLOWER LEFT TRIANGLEaWHITE MEDIUM SQUAREaBLACK MEDIUM SQUAREaWHITE MEDIUM SMALL SQUARE",
      "aBLACK MEDIUM SMALL SQUAREaLOWER RIGHT TRIANGLEaBLACK SUN WITH RAYSaCLOUDaUMBRELLAaSNOWMAN",
      "aCOMETaBLACK STARaWHITE STARaLIGHTNINGaTHUNDERSTORMaSUNaASCENDING NODEaDESCENDING NODE",
      "aCONJUNCTIONaOPPOSITIONaBLACK TELEPHONEaWHITE TELEPHONEaBALLOT BOXc WITH CHECKd XaSALTIRE",
      "aUMBRELLA WITH RAIN DROPSaHOT BEVERAGEaWHITE SHOGI PIECEaBLACK SHOGI PIECEaSHAMROCK",
      "aREVERSED ROTATED FLORAL HEART BULLETaBLACK LEFT POINTING INDEXb RIGHT POINTING INDEX",
      "aWHITE LEFT POINTING INDEXb UP POINTING INDEXb RIGHT POINTING INDEXb DOWN POINTING INDEX",
      "aSKULL AND CROSSBONESaCAUTION SIGNaRADIOACTIVE SIGNaBIOHAZARD SIGNaCADUCEUSaANKH",
      "aORTHODOX CROSSaCHI RHOaCROSS OF LORRAINEc JERUSALEMaSTAR AND CRESCENTaFARSI SYMBOL",
      "aADI SHAKTIaHAMMER AND SICKLEaPEACE SYMBOLaYIN YANGaTRIGRAM FOR HEAVENc LAKEc FIREc THUNDER",
      "c WINDc WATERc MOUNTAINc EARTHaWHEEL OF DHARMAaWHITE FROWNING FACEb SMILING FACE",
      "aBLACK SMILING FACEaWHITE SUN WITH RAYSaFIRST QUARTER MOONaLAST QUARTER MOONaMERCURY",
      "aFEMALE SIGNaEARTHaMALE SIGNaJUPITERaSATURNaURANUSaNEPTUNEaPLUTOaARIESaTAURUSaGEMINIaCANCER",
      "aLEOaVIRGOaLIBRAaSCORPIUSaSAGITTARIUSaCAPRICORNaAQUARIUSaPISCESaWHITE CHESS KINGc QUEEN",
      "c ROOKc BISHOPc KNIGHTc PAWNaBLACK CHESS KINGc QUEENc ROOKc BISHOPc KNIGHTc PAWN",
      "b SPADE SUITaWHITE HEART SUITb DIAMOND SUITaBLACK CLUB SUITaWHITE SPADE SUIT",
      "aBLACK HEART SUITb DIAMOND SUITaWHITE CLUB SUITaHOT SPRINGSaQUARTER NOTEaEIGHTH NOTE",
      "aBEAMED EIGHTH NOTESb SIXTEENTH NOTESaMUSIC FLAT SIGNb NATURAL SIGNb SHARP SIGN",
      "aWEST SYRIAC CROSSaEAST SYRIAC CROSSaUNIVERSAL RECYCLING SYMBOL",
      "aRECYCLING SYMBOL FOR TYPE-1 PLASTICSe-2 PLASTICSe-3 PLASTICSe-4 PLASTICSe-5 PLASTICS",
      "e-6 PLASTICSe-7 PLASTICSd GENERIC MATERIALSaBLACK UNIVERSAL RECYCLING SYMBOL",
      "aRECYCLED PAPER SYMBOLaPARTIALLY-RECYCLED PAPER SYMBOLaPERMANENT PAPER SIGN",
      "aWHEELCHAIR SYMBOLaDIE FACE-1c-2c-3c-4c-5c-6aWHITE CIRCLE WITH DOT RIGHTd TWO DOTS",
      "aBLACK CIRCLE WITH WHITE DOT RIGHTd TWO WHITE DOTSaMONOGRAM FOR YANGc YIN",
      "aDIGRAM FOR GREATER YANGc LESSER YINd YANGc GREATER YINaWHITE FLAGaBLACK FLAG",
      "aHAMMER AND PICKaANCHORaCROSSED SWORDSaSTAFF OF AESCULAPIUSaSCALESaALEMBICaFLOWERaGEAR",
      "aSTAFF OF HERMESaATOM SYMBOLaFLEUR-DE-LISaOUTLINED WHITE STARaTHREE LINES CONVERGING RIGHT",
      "d LEFTaWARNING SIGNaHIGH VOLTAGE SIGNaDOUBLED FEMALE SIGNb MALE SIGN",
      "aINTERLOCKED FEMALE AND MALE SIGNaMALE AND FEMALE SIGNb WITH STROKE SIGN",
      "d AND MALE AND FEMALE SIGNaVERTICAL MALE WITH STROKE SIGNaHORIZONTAL MALE WITH STROKE SIGN",
      "aMEDIUM WHITE CIRCLEb BLACK CIRCLEb SMALL WHITE CIRCLEaMARRIAGE SYMBOLaDIVORCE SYMBOL",
      "aUNMARRIED PARTNERSHIP SYMBOLaCOFFINaFUNERAL URNaNEUTERaCERESaPALLASaJUNOaVESTAaCHIRON",
      "aBLACK MOON LILITHaSEXTILEaSEMISEXTILEaQUINCUNXaSESQUIQUADRATEaSOCCER BALLaBASEBALL",
      "aSQUARED KEYaWHITE DRAUGHTS MANc KINGaBLACK DRAUGHTS MANc KINGaSNOWMAN WITHOUT SNOW",
      "aSUN BEHIND CLOUDaRAINaBLACK SNOWMANaTHUNDER CLOUD AND RAINaTURNED WHITE SHOGI PIECE",
      "b BLACK SHOGI PIECEaWHITE DIAMOND IN SQUAREaCROSSING LANESaDISABLED CARaOPHIUCHUSaPICK",
      "aCAR SLIDINGaHELMET WITH WHITE CROSSaCIRCLED CROSSING LANESaCHAINSaNO ENTRY",
      "aALTERNATE ONE-WAY LEFT WAY TRAFFICaBLACK TWO-WAY LEFT WAY TRAFFIC",
      "aWHITE TWO-WAY LEFT WAY TRAFFICaBLACK LEFT LANE MERGEaWHITE LEFT LANE MERGEaDRIVE SLOW SIGN",
      "aHEAVY WHITE DOWN-POINTING TRIANGLEaLEFT CLOSED ENTRYaSQUARED SALTIRE",
      "aFALLING DIAGONAL IN WHITE CIRCLE IN BLACK SQUAREaBLACK TRUCKaRESTRICTED LEFT ENTRY-1d-2",
      "aASTRONOMICAL SYMBOL FOR URANUSaHEAVY CIRCLE WITH STROKE AND TWO DOTS ABOVEaPENTAGRAM",
      "aRIGHT-HANDED INTERLACED PENTAGRAMaLEFT-HANDED INTERLACED PENTAGRAMaINVERTED PENTAGRAM",
      "aBLACK CROSS ON SHIELDaSHINTO SHRINEaCHURCHaCASTLEaHISTORIC SITEaGEAR WITHOUT HUB",
      "b WITH HANDLESaMAP SYMBOL FOR LIGHTHOUSEaMOUNTAINaUMBRELLA ON GROUNDaFOUNTAINaFLAG IN HOLE",
      "aFERRYaSAILBOATaSQUARE FOUR CORNERSaSKIERaICE SKATEaPERSON WITH BALLaTENT",
      "aJAPANESE BANK SYMBOLaHEADSTONE GRAVEYARD SYMBOLaFUEL PUMPaCUP ON BLACK SQUARE",
      "aWHITE FLAG WITH HORIZONTAL MIDDLE BLACK STRIPEaBLACK SAFETY SCISSORSaUPPER BLADE SCISSORS",
      "aBLACK SCISSORSaLOWER BLADE SCISSORSaWHITE SCISSORSb HEAVY CHECK MARK",
      "aTELEPHONE LOCATION SIGNaTAPE DRIVEaAIRPLANEaENVELOPEaRAISED FISTb HANDaVICTORY HAND",
      "aWRITING HANDaLOWER RIGHT PENCILaPENCILaUPPER RIGHT PENCILaWHITE NIBaBLACK NIBaCHECK MARK",
      "aHEAVY CHECK MARKaMULTIPLICATION XaHEAVY MULTIPLICATION XaBALLOT XaHEAVY BALLOT X",
      "aOUTLINED GREEK CROSSaHEAVY GREEK CROSSaOPEN CENTRE CROSSaHEAVY OPEN CENTRE CROSS",
      "aLATIN CROSSaSHADOWED WHITE LATIN CROSSaOUTLINED LATIN CROSSaMALTESE CROSSaSTAR OF DAVID",
      "aFOUR TEARDROP-SPOKED ASTERISKb BALLOON-SPOKED ASTERISKaHEAVY FOUR BALLOON-SPOKED ASTERISK",
      "aFOUR CLUB-SPOKED ASTERISKaBLACK FOUR POINTED STARaWHITE FOUR POINTED STARaSPARKLES",
      "aSTRESS OUTLINED WHITE STARaCIRCLED WHITE STARaOPEN CENTRE BLACK STAR",
      "aBLACK CENTRE WHITE STARaOUTLINED BLACK STARaHEAVY OUTLINED BLACK STARaPINWHEEL STAR",
      "aSHADOWED WHITE STARaHEAVY ASTERISKaOPEN CENTRE ASTERISKaEIGHT SPOKED ASTERISK",
      "b POINTED BLACK STARc PINWHEEL STARaSIX POINTED BLACK STAR",
      "aEIGHT POINTED RECTILINEAR BLACK STARaHEAVY EIGHT POINTED RECTILINEAR BLACK STAR",
      "aTWELVE POINTED BLACK STARaSIXTEEN POINTED ASTERISKaTEARDROP-SPOKED ASTERISK",
      "aOPEN CENTRE TEARDROP-SPOKED ASTERISKaHEAVY TEARDROP-SPOKED ASTERISK",
      "aSIX PETALLED BLACK AND WHITE FLORETTEaBLACK FLORETTEaWHITE FLORETTE",
      "aEIGHT PETALLED OUTLINED BLACK FLORETTEaCIRCLED OPEN CENTRE EIGHT POINTED STAR",
      "aHEAVY TEARDROP-SPOKED PINWHEEL ASTERISKaSNOWFLAKEaTIGHT TRIFOLIATE SNOWFLAKE",
      "aHEAVY CHEVRON SNOWFLAKEaSPARKLEaHEAVY SPARKLEaBALLOON-SPOKED ASTERISK",
      "aEIGHT TEARDROP-SPOKED PROPELLER ASTERISKaHEAVY EIGHT TEARDROP-SPOKED PROPELLER ASTERISK",
      "aCROSS MARKaSHADOWED WHITE CIRCLEaNEGATIVE SQUARED CROSS MARK",
      "aLOWER RIGHT DROP-SHADOWED WHITE SQUAREaUPPER RIGHT DROP-SHADOWED WHITE SQUARE",
      "aLOWER RIGHT SHADOWED WHITE SQUAREaUPPER RIGHT SHADOWED WHITE SQUARE",
      "aBLACK QUESTION MARK ORNAMENTaWHITE QUESTION MARK ORNAMENTb EXCLAMATION MARK ORNAMENT",
      "aBLACK DIAMOND MINUS WHITE XaHEAVY EXCLAMATION MARK SYMBOLaLIGHT VERTICAL BAR",
      "aMEDIUM VERTICAL BARaHEAVY VERTICAL BARb SINGLE TURNED COMMA QUOTATION MARK ORNAMENT",
      "c COMMA QUOTATION MARK ORNAMENTb DOUBLE TURNED COMMA QUOTATION MARK ORNAMENT",
      "c COMMA QUOTATION MARK ORNAMENTb LOW SINGLE COMMA QUOTATION MARK ORNAMENT",
      "c DOUBLE COMMA QUOTATION MARK ORNAMENTaCURVED STEM PARAGRAPH SIGN ORNAMENT",
      "aHEAVY EXCLAMATION MARK ORNAMENTb HEART EXCLAMATION MARK ORNAMENTb BLACK HEART",
      "aROTATED HEAVY BLACK HEART BULLETaFLORAL HEARTaROTATED FLORAL HEART BULLET",
      "aMEDIUM LEFT PARENTHESIS ORNAMENTb RIGHT PARENTHESIS ORNAMENT",
      "b FLATTENED LEFT PARENTHESIS ORNAMENTc RIGHT PARENTHESIS ORNAMENT",
      "b LEFT-POINTING ANGLE BRACKET ORNAMENTb RIGHT-POINTING ANGLE BRACKET ORNAMENT",
      "aHEAVY LEFT-POINTING ANGLE QUOTATION MARK ORNAMENT",
      "b RIGHT-POINTING ANGLE QUOTATION MARK ORNAMENTb LEFT-POINTING ANGLE BRACKET ORNAMENT",
      "b RIGHT-POINTING ANGLE BRACKET ORNAMENTaLIGHT LEFT TORTOISE SHELL BRACKET ORNAMENT",
      "b RIGHT TORTOISE SHELL BRACKET ORNAMENTaMEDIUM LEFT CURLY BRACKET ORNAMENT",
      "b RIGHT CURLY BRACKET ORNAMENTaDINGBAT NEGATIVE CIRCLED DIGIT ONEe TWOe THREEe FOURe FIVE",
      "e SIXe SEVENe EIGHTe NINEd NUMBER TENb CIRCLED SANS-SERIF DIGIT ONEf TWOf THREEf FOURf FIVE",
      "f SIXf SEVENf EIGHTf NINEe NUMBER TENb NEGATIVE CIRCLED SANS-SERIF DIGIT ONEg TWOg THREE",
      "g FOURg FIVEg SIXg SEVENg EIGHTg NINEf NUMBER TENaHEAVY WIDE-HEADED RIGHTWARDS ARROW",
      "b PLUS SIGNb MINUS SIGNb DIVISION SIGNb SOUTH EAST ARROWb RIGHTWARDS ARROW",
      "b NORTH EAST ARROWaDRAFTING POINT RIGHTWARDS ARROWaHEAVY ROUND-TIPPED RIGHTWARDS ARROW",
      "aTRIANGLE-HEADED RIGHTWARDS ARROWaHEAVY TRIANGLE-HEADED RIGHTWARDS ARROW",
      "aDASHED TRIANGLE-HEADED RIGHTWARDS ARROWaHEAVY DASHED TRIANGLE-HEADED RIGHTWARDS ARROW",
      "aBLACK RIGHTWARDS ARROWaTHREE-D TOP-LIGHTED RIGHTWARDS ARROWHEAD",
      "c BOTTOM-LIGHTED RIGHTWARDS ARROWHEADaBLACK RIGHTWARDS ARROWHEAD",
      "aHEAVY BLACK CURVED DOWNWARDS AND RIGHTWARDS ARROWd UPWARDS AND RIGHTWARDS ARROW",
      "aSQUAT BLACK RIGHTWARDS ARROWaHEAVY CONCAVE-POINTED BLACK RIGHTWARDS ARROW",
      "aRIGHT-SHADED WHITE RIGHTWARDS ARROWaLEFT-SHADED WHITE RIGHTWARDS ARROW",
      "aBACK-TILTED SHADOWED WHITE RIGHTWARDS ARROWaFRONT-TILTED SHADOWED WHITE RIGHTWARDS ARROW",
      "aHEAVY LOWER RIGHT-SHADOWED WHITE RIGHTWARDS ARROW",
      "b UPPER RIGHT-SHADOWED WHITE RIGHTWARDS ARROW",
      "aNOTCHED LOWER RIGHT-SHADOWED WHITE RIGHTWARDS ARROWaCURLY LOOP",
      "aNOTCHED UPPER RIGHT-SHADOWED WHITE RIGHTWARDS ARROWaCIRCLED HEAVY WHITE RIGHTWARDS ARROW",
      "aWHITE-FEATHERED RIGHTWARDS ARROWaBLACK-FEATHERED SOUTH EAST ARROWc RIGHTWARDS ARROW",
      "c NORTH EAST ARROWaHEAVY BLACK-FEATHERED SOUTH EAST ARROWd RIGHTWARDS ARROW",
      "d NORTH EAST ARROWaTEARDROP-BARBED RIGHTWARDS ARROWaHEAVY TEARDROP-SHANKED RIGHTWARDS ARROW",
      "aWEDGE-TAILED RIGHTWARDS ARROWaHEAVY WEDGE-TAILED RIGHTWARDS ARROW",
      "aOPEN-OUTLINED RIGHTWARDS ARROWaDOUBLE CURLY LOOPaTHREE DIMENSIONAL ANGLE",
      "aWHITE TRIANGLE CONTAINING SMALL WHITE TRIANGLEaPERPENDICULARaOPEN SUBSETb SUPERSET",
      "aLEFT S-SHAPED BAG DELIMITERaRIGHT S-SHAPED BAG DELIMITERaOR WITH DOT INSIDE",
      "aREVERSE SOLIDUS PRECEDING SUBSETaSUPERSET PRECEDING SOLIDUS",
      "aVERTICAL BAR WITH HORIZONTAL STROKEaMATHEMATICAL RISING DIAGONALaLONG DIVISION",
      "aMATHEMATICAL FALLING DIAGONALaSQUARED LOGICAL ANDc ORaWHITE DIAMOND WITH CENTRED DOT",
      "aAND WITH DOTaELEMENT OF OPENING UPWARDSaLOWER RIGHT CORNER WITH DOT",
      "aUPPER LEFT CORNER WITH DOTaLEFT OUTER JOINaRIGHT OUTER JOINaFULL OUTER JOINaLARGE UP TACK",
      "b DOWN TACKaLEFT AND RIGHT DOUBLE TURNSTILEd TACKb MULTIMAPaLONG RIGHT TACKb LEFT TACK",
      "aUP TACK WITH CIRCLE ABOVEaLOZENGE DIVIDED BY HORIZONTAL RULEaWHITE CONCAVE-SIDED DIAMOND",
      "e WITH LEFTWARDS TICKf RIGHTWARDS TICKb SQUARE WITH LEFTWARDS TICKd RIGHTWARDS TICK",
      "aMATHEMATICAL LEFT WHITE SQUARE BRACKETb RIGHT WHITE SQUARE BRACKETb LEFT ANGLE BRACKET",
      "b RIGHT ANGLE BRACKETb LEFT DOUBLE ANGLE BRACKETb RIGHT DOUBLE ANGLE BRACKET",
      "b LEFT WHITE TORTOISE SHELL BRACKETb RIGHT WHITE TORTOISE SHELL BRACKET",
      "b LEFT FLATTENED PARENTHESISb RIGHT FLATTENED PARENTHESISaUPWARDS QUADRUPLE ARROW",
      "aDOWNWARDS QUADRUPLE ARROWaANTICLOCKWISE GAPPED CIRCLE ARROWaCLOCKWISE GAPPED CIRCLE ARROW",
      "aRIGHT ARROW WITH CIRCLED PLUSaLONG LEFTWARDS ARROWb RIGHTWARDS ARROWb LEFT RIGHT ARROW",
      "b LEFTWARDS DOUBLE ARROWb RIGHTWARDS DOUBLE ARROWb LEFT RIGHT DOUBLE ARROW",
      "b LEFTWARDS ARROW FROM BARb RIGHTWARDS ARROW FROM BARb LEFTWARDS DOUBLE ARROW FROM BAR",
      "b RIGHTWARDS DOUBLE ARROW FROM BARc SQUIGGLE ARROWaBRAILLE PATTERN BLANKc DOTS-1d-2d-12d-3",
      "d-13d-23d-123d-4d-14d-24d-124d-34d-134d-234d-1234d-5d-15d-25d-125d-35d-135d-235d-1235d-45",
      "d-145d-245d-1245d-345d-1345d-2345d-12345d-6d-16d-26d-126d-36d-136d-236d-1236d-46d-146d-246",
      "d-1246d-346d-1346d-2346d-12346d-56d-156d-256d-1256d-356d-1356d-2356d-12356d-456d-1456d-2456",
      "d-12456d-3456d-13456d-23456d-123456d-7d-17d-27d-127d-37d-137d-237d-1237d-47d-147d-247d-1247",
      "d-347d-1347d-2347d-12347d-57d-157d-257d-1257d-357d-1357d-2357d-12357d-457d-1457d-2457",
      "d-12457d-3457d-13457d-23457d-123457d-67d-167d-267d-1267d-367d-1367d-2367d-12367d-467d-1467",
      "d-2467d-12467d-3467d-13467d-23467d-123467d-567d-1567d-2567d-12567d-3567d-13567d-23567",
      "d-123567d-4567d-14567d-24567d-124567d-34567d-134567d-234567d-1234567d-8d-18d-28d-128d-38",
      "d-138d-238d-1238d-48d-148d-248d-1248d-348d-1348d-2348d-12348d-58d-158d-258d-1258d-358d-1358",
      "d-2358d-12358d-458d-1458d-2458d-12458d-3458d-13458d-23458d-123458d-68d-168d-268d-1268d-368",
      "d-1368d-2368d-12368d-468d-1468d-2468d-12468d-3468d-13468d-23468d-123468d-568d-1568d-2568",
      "d-12568d-3568d-13568d-23568d-123568d-4568d-14568d-24568d-124568d-34568d-134568d-234568",
      "d-1234568d-78d-178d-278d-1278d-378d-1378d-2378d-12378d-478d-1478d-2478d-12478d-3478d-13478",
      "d-23478d-123478d-578d-1578d-2578d-12578d-3578d-13578d-23578d-123578d-4578d-14578d-24578",
      "d-124578d-34578d-134578d-234578d-1234578d-678d-1678d-2678d-12678d-3678d-13678d-23678",
      "d-123678d-4678d-14678d-24678d-124678d-34678d-134678d-234678d-1234678d-5678d-15678d-25678",
      "d-125678d-35678d-135678d-235678d-1235678d-45678d-145678d-245678d-1245678d-345678d-1345678",
      "d-2345678d-12345678aRIGHTWARDS TWO-HEADED ARROW WITH VERTICAL STROKE",
      "f DOUBLE VERTICAL STROKEaLEFTWARDS DOUBLE ARROW WITH VERTICAL STROKE",
      "aRIGHTWARDS DOUBLE ARROW WITH VERTICAL STROKEaLEFT RIGHT DOUBLE ARROW WITH VERTICAL STROKE",
      "aRIGHTWARDS TWO-HEADED ARROW FROM BARaLEFTWARDS DOUBLE ARROW FROM BAR",
      "aRIGHTWARDS DOUBLE ARROW FROM BARaDOWNWARDS ARROW WITH HORIZONTAL STROKE",
      "aUPWARDS ARROW WITH HORIZONTAL STROKEb TRIPLE ARROWaDOWNWARDS TRIPLE ARROW",
      "aLEFTWARDS DOUBLE DASH ARROWaRIGHTWARDS DOUBLE DASH ARROWaLEFTWARDS TRIPLE DASH ARROW",
      "aRIGHTWARDS TRIPLE DASH ARROWb TWO-HEADED TRIPLE DASH ARROWb ARROW WITH DOTTED STEM",
      "aUPWARDS ARROW TO BARaDOWNWARDS ARROW TO BAR",
      "aRIGHTWARDS ARROW WITH TAIL WITH VERTICAL STROKEf DOUBLE VERTICAL STROKE",
      "b TWO-HEADED ARROW WITH TAILg WITH VERTICAL STROKEh DOUBLE VERTICAL STROKE",
      "aLEFTWARDS ARROW-TAILaRIGHTWARDS ARROW-TAILaLEFTWARDS DOUBLE ARROW-TAIL",
      "aRIGHTWARDS DOUBLE ARROW-TAILaLEFTWARDS ARROW TO BLACK DIAMOND",
      "aRIGHTWARDS ARROW TO BLACK DIAMONDaLEFTWARDS ARROW FROM BAR TO BLACK DIAMOND",
      "aRIGHTWARDS ARROW FROM BAR TO BLACK DIAMONDaNORTH WEST AND SOUTH EAST ARROW",
      "b EAST AND SOUTH WEST ARROWb WEST ARROW WITH HOOKb EAST ARROW WITH HOOK",
      "aSOUTH EAST ARROW WITH HOOKb WEST ARROW WITH HOOKaNORTH WEST ARROW AND NORTH EAST ARROW",
      "b EAST ARROW AND SOUTH EAST ARROWaSOUTH EAST ARROW AND SOUTH WEST ARROW",
      "b WEST ARROW AND NORTH WEST ARROWaRISING DIAGONAL CROSSING FALLING DIAGONAL",
      "aFALLING DIAGONAL CROSSING RISING DIAGONALaSOUTH EAST ARROW CROSSING NORTH EAST ARROW",
      "aNORTH EAST ARROW CROSSING SOUTH EAST ARROWaFALLING DIAGONAL CROSSING NORTH EAST ARROW",
      "aRISING DIAGONAL CROSSING SOUTH EAST ARROWaNORTH EAST ARROW CROSSING NORTH WEST ARROW",
      "b WEST ARROW CROSSING NORTH EAST ARROWaWAVE ARROW POINTING DIRECTLY RIGHT",
      "aARROW POINTING RIGHTWARDS THEN CURVING UPWARDSf DOWNWARDS",
      "c DOWNWARDS THEN CURVING LEFTWARDSf RIGHTWARDSaRIGHT-SIDE ARC CLOCKWISE ARROW",
      "aLEFT-SIDE ARC ANTICLOCKWISE ARROWaTOP ARC ANTICLOCKWISE ARROW",
      "aBOTTOM ARC ANTICLOCKWISE ARROWaTOP ARC CLOCKWISE ARROW WITH MINUS",
      "c ANTICLOCKWISE ARROW WITH PLUSaLOWER RIGHT SEMICIRCULAR CLOCKWISE ARROW",
      "b LEFT SEMICIRCULAR ANTICLOCKWISE ARROWaANTICLOCKWISE CLOSED CIRCLE ARROW",
      "aCLOCKWISE CLOSED CIRCLE ARROWaRIGHTWARDS ARROW ABOVE SHORT LEFTWARDS ARROW",
      "aLEFTWARDS ARROW ABOVE SHORT RIGHTWARDS ARROWaSHORT RIGHTWARDS ARROW ABOVE LEFTWARDS ARROW",
      "aRIGHTWARDS ARROW WITH PLUS BELOWaLEFTWARDS ARROW WITH PLUS BELOW",
      "aRIGHTWARDS ARROW THROUGH XaLEFT RIGHT ARROW THROUGH SMALL CIRCLE",
      "aUPWARDS TWO-HEADED ARROW FROM SMALL CIRCLEaLEFT BARB UP RIGHT BARB DOWN HARPOON",
      "c DOWN RIGHT BARB UP HARPOONaUP BARB RIGHT DOWN BARB LEFT HARPOON",
      "c LEFT DOWN BARB RIGHT HARPOONaLEFT BARB UP RIGHT BARB UP HARPOON",
      "aUP BARB RIGHT DOWN BARB RIGHT HARPOONaLEFT BARB DOWN RIGHT BARB DOWN HARPOON",
      "aUP BARB LEFT DOWN BARB LEFT HARPOONaLEFTWARDS HARPOON WITH BARB UP TO BAR",
      "aRIGHTWARDS HARPOON WITH BARB UP TO BARaUPWARDS HARPOON WITH BARB RIGHT TO BAR",
      "aDOWNWARDS HARPOON WITH BARB RIGHT TO BARaLEFTWARDS HARPOON WITH BARB DOWN TO BAR",
      "aRIGHTWARDS HARPOON WITH BARB DOWN TO BARaUPWARDS HARPOON WITH BARB LEFT TO BAR",
      "aDOWNWARDS HARPOON WITH BARB LEFT TO BARaLEFTWARDS HARPOON WITH BARB UP FROM BAR",
      "aRIGHTWARDS HARPOON WITH BARB UP FROM BARaUPWARDS HARPOON WITH BARB RIGHT FROM BAR",
      "aDOWNWARDS HARPOON WITH BARB RIGHT FROM BARaLEFTWARDS HARPOON WITH BARB DOWN FROM BAR",
      "aRIGHTWARDS HARPOON WITH BARB DOWN FROM BARaUPWARDS HARPOON WITH BARB LEFT FROM BAR",
      "aDOWNWARDS HARPOON WITH BARB LEFT FROM BAR",
      "aLEFTWARDS HARPOON WITH BARB UP ABOVE LEFTWARDS HARPOON WITH BARB DOWN",
      "aUPWARDS HARPOON WITH BARB LEFT BESIDE UPWARDS HARPOON WITH BARB RIGHT",
      "aRIGHTWARDS HARPOON WITH BARB UP ABOVE RIGHTWARDS HARPOON WITH BARB DOWN",
      "aDOWNWARDS HARPOON WITH BARB LEFT BESIDE DOWNWARDS HARPOON WITH BARB RIGHT",
      "aLEFTWARDS HARPOON WITH BARB UP ABOVE RIGHTWARDS HARPOON WITH BARB UP",
      "e DOWN ABOVE RIGHTWARDS HARPOON WITH BARB DOWN",
      "aRIGHTWARDS HARPOON WITH BARB UP ABOVE LEFTWARDS HARPOON WITH BARB UP",
      "e DOWN ABOVE LEFTWARDS HARPOON WITH BARB DOWN",
      "aLEFTWARDS HARPOON WITH BARB UP ABOVE LONG DASHe DOWN BELOW LONG DASH",
      "aRIGHTWARDS HARPOON WITH BARB UP ABOVE LONG DASHe DOWN BELOW LONG DASH",
      "aUPWARDS HARPOON WITH BARB LEFT BESIDE DOWNWARDS HARPOON WITH BARB RIGHT",
      "aDOWNWARDS HARPOON WITH BARB LEFT BESIDE UPWARDS HARPOON WITH BARB RIGHT",
      "aRIGHT DOUBLE ARROW WITH ROUNDED HEADaEQUALS SIGN ABOVE RIGHTWARDS ARROW",
      "aTILDE OPERATOR ABOVE RIGHTWARDS ARROWaLEFTWARDS ARROW ABOVE TILDE OPERATOR",
      "aRIGHTWARDS ARROW ABOVE TILDE OPERATORd ALMOST EQUAL TOaLESS-THAN ABOVE LEFTWARDS ARROW",
      "aLEFTWARDS ARROW THROUGH LESS-THANaGREATER-THAN ABOVE RIGHTWARDS ARROW",
      "aSUBSET ABOVE RIGHTWARDS ARROWaLEFTWARDS ARROW THROUGH SUBSET",
      "aSUPERSET ABOVE LEFTWARDS ARROWaLEFT FISH TAILaRIGHT FISH TAILaUP FISH TAILaDOWN FISH TAIL",
      "aTRIPLE VERTICAL BAR DELIMITERaZ NOTATION SPOTc TYPE COLONaLEFT WHITE CURLY BRACKET",
      "aRIGHT WHITE CURLY BRACKETaLEFT WHITE PARENTHESISaRIGHT WHITE PARENTHESIS",
      "aZ NOTATION LEFT IMAGE BRACKETc RIGHT IMAGE BRACKETc LEFT BINDING BRACKET",
      "c RIGHT BINDING BRACKETaLEFT SQUARE BRACKET WITH UNDERBAR",
      "aRIGHT SQUARE BRACKET WITH UNDERBARaLEFT SQUARE BRACKET WITH TICK IN TOP CORNER",
      "aRIGHT SQUARE BRACKET WITH TICK IN BOTTOM CORNER",
      "aLEFT SQUARE BRACKET WITH TICK IN BOTTOM CORNER",
      "aRIGHT SQUARE BRACKET WITH TICK IN TOP CORNERaLEFT ANGLE BRACKET WITH DOT",
      "aRIGHT ANGLE BRACKET WITH DOTaLEFT ARC LESS-THAN BRACKETaRIGHT ARC GREATER-THAN BRACKET",
      "aDOUBLE LEFT ARC GREATER-THAN BRACKETb RIGHT ARC LESS-THAN BRACKET",
      "aLEFT BLACK TORTOISE SHELL BRACKETaRIGHT BLACK TORTOISE SHELL BRACKETaDOTTED FENCE",
      "aVERTICAL ZIGZAG LINEaMEASURED ANGLE OPENING LEFTaRIGHT ANGLE VARIANT WITH SQUARE",
      "aMEASURED RIGHT ANGLE WITH DOTaANGLE WITH S INSIDEaACUTE ANGLEaSPHERICAL ANGLE OPENING LEFT",
      "d UPaTURNED ANGLEaREVERSED ANGLEaANGLE WITH UNDERBARaREVERSED ANGLE WITH UNDERBAR",
      "aOBLIQUE ANGLE OPENING UPd DOWN",
      "aMEASURED ANGLE WITH OPEN ARM ENDING IN ARROW POINTING UP AND RIGHTl LEFTj DOWN AND RIGHT",
      "l LEFTj RIGHT AND UPj LEFT AND UPj RIGHT AND DOWNj LEFT AND DOWNaREVERSED EMPTY SET",
      "aEMPTY SET WITH OVERBARd SMALL CIRCLE ABOVEd RIGHT ARROW ABOVEd LEFT ARROW ABOVE",
      "aCIRCLE WITH HORIZONTAL BARaCIRCLED VERTICAL BARb PARALLELb REVERSE SOLIDUSb PERPENDICULAR",
      "aCIRCLE DIVIDED BY HORIZONTAL BAR AND TOP HALF DIVIDED BY VERTICAL BARb WITH SUPERIMPOSED X",
      "aCIRCLED ANTICLOCKWISE-ROTATED DIVISION SIGNaUP ARROW THROUGH CIRCLEaCIRCLED WHITE BULLET",
      "b BULLETb LESS-THANb GREATER-THANaCIRCLE WITH SMALL CIRCLE TO THE RIGHT",
      "c TWO HORIZONTAL STROKES TO THE RIGHTaSQUARED RISING DIAGONAL SLASHb FALLING DIAGONAL SLASH",
      "b ASTERISKb SMALL CIRCLEb SQUAREaTWO JOINED SQUARESaTRIANGLE WITH DOT ABOVEc UNDERBAR",
      "aS IN TRIANGLEaTRIANGLE WITH SERIFS AT BOTTOMaRIGHT TRIANGLE ABOVE LEFT TRIANGLE",
      "aLEFT TRIANGLE BESIDE VERTICAL BARaVERTICAL BAR BESIDE RIGHT TRIANGLE",
      "aBOWTIE WITH LEFT HALF BLACKc RIGHT HALF BLACKaBLACK BOWTIEaTIMES WITH LEFT HALF BLACK",
      "c RIGHT HALF BLACKaWHITE HOURGLASSaBLACK HOURGLASSaLEFT WIGGLY FENCEaRIGHT WIGGLY FENCE",
      "aLEFT DOUBLE WIGGLY FENCEaRIGHT DOUBLE WIGGLY FENCEaINCOMPLETE INFINITYaTIE OVER INFINITY",
      "aINFINITY NEGATED WITH VERTICAL BARaDOUBLE-ENDED MULTIMAPaSQUARE WITH CONTOURED OUTLINE",
      "aINCREASES ASaSHUFFLE PRODUCTaEQUALS SIGN AND SLANTED PARALLELf WITH TILDE ABOVE",
      "aIDENTICAL TO AND SLANTED PARALLELaGLEICH STARKaTHERMODYNAMIC",
      "aDOWN-POINTING TRIANGLE WITH LEFT HALF BLACKe RIGHT HALF BLACK",
      "aBLACK DIAMOND WITH DOWN ARROWb LOZENGEaWHITE CIRCLE WITH DOWN ARROW",
      "aBLACK CIRCLE WITH DOWN ARROWaERROR-BARRED WHITE SQUAREc BLACK SQUAREc WHITE DIAMOND",
      "c BLACK DIAMONDc WHITE CIRCLEc BLACK CIRCLEaRULE-DELAYEDaREVERSE SOLIDUS OPERATOR",
      "aSOLIDUS WITH OVERBARaREVERSE SOLIDUS WITH HORIZONTAL STROKEaBIG SOLIDUSb REVERSE SOLIDUS",
      "aDOUBLE PLUSaTRIPLE PLUSaLEFT-POINTING CURVED ANGLE BRACKET",
      "aRIGHT-POINTING CURVED ANGLE BRACKETaTINYaMINYaN-ARY CIRCLED DOT OPERATORd PLUS OPERATOR",
      "d TIMES OPERATORc UNION OPERATOR WITH DOTf PLUSc SQUARE INTERSECTION OPERATOR",
      "d UNION OPERATORaTWO LOGICAL AND OPERATORc OR OPERATORaN-ARY TIMES OPERATORaMODULO TWO SUM",
      "aSUMMATION WITH INTEGRALaQUADRUPLE INTEGRAL OPERATORaFINITE PART INTEGRAL",
      "aINTEGRAL WITH DOUBLE STROKEb AVERAGE WITH SLASHaCIRCULATION FUNCTION",
      "aANTICLOCKWISE INTEGRATIONaLINE INTEGRATION WITH RECTANGULAR PATH AROUND POLE",
      "d SEMICIRCULAR PATH AROUND POLEc NOT INCLUDING THE POLEaINTEGRAL AROUND A POINT OPERATOR",
      "aQUATERNION INTEGRAL OPERATORaINTEGRAL WITH LEFTWARDS ARROW WITH HOOKc TIMES SIGN",
      "c INTERSECTIONc UNIONc OVERBARc UNDERBARaJOINaLARGE LEFT TRIANGLE OPERATOR",
      "aZ NOTATION SCHEMA COMPOSITIONd PIPINGd PROJECTIONaPLUS SIGN WITH SMALL CIRCLE ABOVE",
      "d CIRCUMFLEX ACCENT ABOVEd TILDE ABOVEd DOT BELOWd TILDE BELOWd SUBSCRIPT TWO",
      "d BLACK TRIANGLEaMINUS SIGN WITH COMMA ABOVEd DOT BELOWd FALLING DOTSd RISING DOTS",
      "aPLUS SIGN IN LEFT HALF CIRCLEd RIGHT HALF CIRCLEaVECTOR OR CROSS PRODUCT",
      "aMULTIPLICATION SIGN WITH DOT ABOVEd UNDERBARaSEMIDIRECT PRODUCT WITH BOTTOM CLOSED",
      "aSMASH PRODUCTaMULTIPLICATION SIGN IN LEFT HALF CIRCLEd RIGHT HALF CIRCLE",
      "aCIRCLED MULTIPLICATION SIGN WITH CIRCUMFLEX ACCENTaMULTIPLICATION SIGN IN DOUBLE CIRCLE",
      "aCIRCLED DIVISION SIGNaPLUS SIGN IN TRIANGLEaMINUS SIGN IN TRIANGLE",
      "aMULTIPLICATION SIGN IN TRIANGLEaINTERIOR PRODUCTaRIGHTHAND INTERIOR PRODUCT",
      "aZ NOTATION RELATIONAL COMPOSITIONaAMALGAMATION OR COPRODUCTaINTERSECTION WITH DOT",
      "aUNION WITH MINUS SIGNc OVERBARaINTERSECTION WITH OVERBARc LOGICAL AND",
      "aUNION WITH LOGICAL ORb ABOVE INTERSECTIONaINTERSECTION ABOVE UNION",
      "aUNION ABOVE BAR ABOVE INTERSECTIONaINTERSECTION ABOVE BAR ABOVE UNION",
      "aUNION BESIDE AND JOINED WITH UNIONaINTERSECTION BESIDE AND JOINED WITH INTERSECTION",
      "aCLOSED UNION WITH SERIFSb INTERSECTION WITH SERIFSaDOUBLE SQUARE INTERSECTIONc UNION",
      "aCLOSED UNION WITH SERIFS AND SMASH PRODUCTaLOGICAL AND WITH DOT ABOVEb OR WITH DOT ABOVE",
      "aDOUBLE LOGICAL ANDc ORaTWO INTERSECTING LOGICAL ANDd ORaSLOPING LARGE ORc AND",
      "aLOGICAL OR OVERLAPPING LOGICAL ANDb AND WITH MIDDLE STEMb OR WITH MIDDLE STEM",
      "b AND WITH HORIZONTAL DASHb OR WITH HORIZONTAL DASHb AND WITH DOUBLE OVERBARd UNDERBAR",
      "d DOUBLE UNDERBARaSMALL VEE WITH UNDERBARaLOGICAL OR WITH DOUBLE OVERBARe UNDERBAR",
      "aZ NOTATION DOMAIN ANTIRESTRICTIONc RANGE ANTIRESTRICTIONaEQUALS SIGN WITH DOT BELOW",
      "aIDENTICAL WITH DOT ABOVEaTRIPLE HORIZONTAL BAR WITH DOUBLE VERTICAL STROKE",
      "e TRIPLE VERTICAL STROKEaTILDE OPERATOR WITH DOT ABOVEd RISING DOTSaSIMILAR MINUS SIMILAR",
      "aCONGRUENT WITH DOT ABOVEaEQUALS WITH ASTERISKaALMOST EQUAL TO WITH CIRCUMFLEX ACCENT",
      "aAPPROXIMATELY EQUAL OR EQUAL TOaEQUALS SIGN ABOVE PLUS SIGNaPLUS SIGN ABOVE EQUALS SIGN",
      "aEQUALS SIGN ABOVE TILDE OPERATORaDOUBLE COLON EQUALaTWO CONSECUTIVE EQUALS SIGNS",
      "aTHREE CONSECUTIVE EQUALS SIGNSaEQUALS SIGN WITH TWO DOTS ABOVE AND TWO DOTS BELOW",
      "aEQUIVALENT WITH FOUR DOTS ABOVEaLESS-THAN WITH CIRCLE INSIDE",
      "aGREATER-THAN WITH CIRCLE INSIDEaLESS-THAN WITH QUESTION MARK ABOVE",
      "aGREATER-THAN WITH QUESTION MARK ABOVEaLESS-THAN OR SLANTED EQUAL TO",
      "aGREATER-THAN OR SLANTED EQUAL TOaLESS-THAN OR SLANTED EQUAL TO WITH DOT INSIDE",
      "aGREATER-THAN OR SLANTED EQUAL TO WITH DOT INSIDE",
      "aLESS-THAN OR SLANTED EQUAL TO WITH DOT ABOVE",
      "aGREATER-THAN OR SLANTED EQUAL TO WITH DOT ABOVE",
      "aLESS-THAN OR SLANTED EQUAL TO WITH DOT ABOVE RIGHT",
      "aGREATER-THAN OR SLANTED EQUAL TO WITH DOT ABOVE LEFTaLESS-THAN OR APPROXIMATE",
      "aGREATER-THAN OR APPROXIMATEaLESS-THAN AND SINGLE-LINE NOT EQUAL TO",
      "aGREATER-THAN AND SINGLE-LINE NOT EQUAL TOaLESS-THAN AND NOT APPROXIMATE",
      "aGREATER-THAN AND NOT APPROXIMATEaLESS-THAN ABOVE DOUBLE-LINE EQUAL ABOVE GREATER-THAN",
      "aGREATER-THAN ABOVE DOUBLE-LINE EQUAL ABOVE LESS-THANaLESS-THAN ABOVE SIMILAR OR EQUAL",
      "aGREATER-THAN ABOVE SIMILAR OR EQUALaLESS-THAN ABOVE SIMILAR ABOVE GREATER-THAN",
      "aGREATER-THAN ABOVE SIMILAR ABOVE LESS-THAN",
      "aLESS-THAN ABOVE GREATER-THAN ABOVE DOUBLE-LINE EQUAL",
      "aGREATER-THAN ABOVE LESS-THAN ABOVE DOUBLE-LINE EQUAL",
      "aLESS-THAN ABOVE SLANTED EQUAL ABOVE GREATER-THAN ABOVE SLANTED EQUAL",
      "aGREATER-THAN ABOVE SLANTED EQUAL ABOVE LESS-THAN ABOVE SLANTED EQUAL",
      "aSLANTED EQUAL TO OR LESS-THANe GREATER-THANe LESS-THAN WITH DOT INSIDE",
      "e GREATER-THAN WITH DOT INSIDEaDOUBLE-LINE EQUAL TO OR LESS-THANf GREATER-THAN",
      "c SLANTED EQUAL TO OR LESS-THANg GREATER-THANaSIMILAR OR LESS-THANc GREATER-THAN",
      "b ABOVE LESS-THAN ABOVE EQUALS SIGNc GREATER-THAN ABOVE EQUALS SIGNaDOUBLE NESTED LESS-THAN",
      "c GREATER-THANc LESS-THAN WITH UNDERBARaGREATER-THAN OVERLAPPING LESS-THAN",
      "c BESIDE LESS-THANaLESS-THAN CLOSED BY CURVEaGREATER-THAN CLOSED BY CURVE",
      "aLESS-THAN CLOSED BY CURVE ABOVE SLANTED EQUAL",
      "aGREATER-THAN CLOSED BY CURVE ABOVE SLANTED EQUALaSMALLER THANaLARGER THAN",
      "aSMALLER THAN OR EQUAL TOaLARGER THAN OR EQUAL TOaEQUALS SIGN WITH BUMPY ABOVE",
      "aPRECEDES ABOVE SINGLE-LINE EQUALS SIGNaSUCCEEDS ABOVE SINGLE-LINE EQUALS SIGN",
      "aPRECEDES ABOVE SINGLE-LINE NOT EQUAL TOaSUCCEEDS ABOVE SINGLE-LINE NOT EQUAL TO",
      "aPRECEDES ABOVE EQUALS SIGNaSUCCEEDS ABOVE EQUALS SIGNaPRECEDES ABOVE NOT EQUAL TO",
      "aSUCCEEDS ABOVE NOT EQUAL TOaPRECEDES ABOVE ALMOST EQUAL TOaSUCCEEDS ABOVE ALMOST EQUAL TO",
      "aPRECEDES ABOVE NOT ALMOST EQUAL TOaSUCCEEDS ABOVE NOT ALMOST EQUAL TOaDOUBLE PRECEDES",
      "b SUCCEEDSaSUBSET WITH DOTaSUPERSET WITH DOTaSUBSET WITH PLUS SIGN BELOW",
      "aSUPERSET WITH PLUS SIGN BELOWaSUBSET WITH MULTIPLICATION SIGN BELOW",
      "aSUPERSET WITH MULTIPLICATION SIGN BELOWaSUBSET OF OR EQUAL TO WITH DOT ABOVE",
      "aSUPERSET OF OR EQUAL TO WITH DOT ABOVEaSUBSET OF ABOVE EQUALS SIGN",
      "aSUPERSET OF ABOVE EQUALS SIGNaSUBSET OF ABOVE TILDE OPERATOR",
      "aSUPERSET OF ABOVE TILDE OPERATORaSUBSET OF ABOVE ALMOST EQUAL TO",
      "aSUPERSET OF ABOVE ALMOST EQUAL TOaSUBSET OF ABOVE NOT EQUAL TO",
      "aSUPERSET OF ABOVE NOT EQUAL TOaSQUARE LEFT OPEN BOX OPERATORb RIGHT OPEN BOX OPERATOR",
      "aCLOSED SUBSETb SUPERSETb SUBSET OR EQUAL TOb SUPERSET OR EQUAL TOaSUBSET ABOVE SUPERSET",
      "aSUPERSET ABOVE SUBSETaSUBSET ABOVE SUBSETaSUPERSET ABOVE SUPERSETb BESIDE SUBSET",
      "c AND JOINED BY DASH WITH SUBSETaELEMENT OF OPENING DOWNWARDSaPITCHFORK WITH TEE TOP",
      "aTRANSVERSAL INTERSECTIONaFORKINGaNONFORKINGaSHORT LEFT TACKb DOWN TACKb UP TACK",
      "aPERPENDICULAR WITH SaVERTICAL BAR TRIPLE RIGHT TURNSTILE",
      "aDOUBLE VERTICAL BAR LEFT TURNSTILEaVERTICAL BAR DOUBLE LEFT TURNSTILE",
      "aDOUBLE VERTICAL BAR DOUBLE LEFT TURNSTILEaLONG DASH FROM LEFT MEMBER OF DOUBLE VERTICAL",
      "aSHORT DOWN TACK WITH OVERBARb UP TACK WITH UNDERBARd ABOVE SHORT DOWN TACK",
      "aDOUBLE DOWN TACKb UP TACKb STROKE NOT SIGNaREVERSED DOUBLE STROKE NOT SIGN",
      "aDOES NOT DIVIDE WITH REVERSED NEGATION SLASHaVERTICAL LINE WITH CIRCLE ABOVEe BELOW",
      "aDOWN TACK WITH CIRCLE BELOWaPARALLEL WITH HORIZONTAL STROKEc TILDE OPERATOR",
      "aTRIPLE VERTICAL BAR BINARY RELATIONd WITH HORIZONTAL STROKEb COLON OPERATOR",
      "b NESTED LESS-THANc GREATER-THANaDOUBLE-LINE SLANTED LESS-THAN OR EQUAL TO",
      "d GREATER-THAN OR EQUAL TOaTRIPLE SOLIDUS BINARY RELATION",
      "aLARGE TRIPLE VERTICAL BAR OPERATORaDOUBLE SOLIDUS OPERATORaWHITE VERTICAL BAR",
      "aN-ARY WHITE VERTICAL BARaNORTH EAST WHITE ARROWb WEST WHITE ARROWaSOUTH EAST WHITE ARROW",
      "b WEST WHITE ARROWaLEFT RIGHT WHITE ARROWaLEFTWARDS BLACK ARROWaUPWARDS BLACK ARROW",
      "aDOWNWARDS BLACK ARROWaNORTH EAST BLACK ARROWb WEST BLACK ARROWaSOUTH EAST BLACK ARROW",
      "b WEST BLACK ARROWaLEFT RIGHT BLACK ARROWaUP DOWN BLACK ARROW",
      "aRIGHTWARDS ARROW WITH TIP DOWNWARDSe UPWARDSaLEFTWARDS ARROW WITH TIP DOWNWARDSe UPWARDS",
      "aSQUARE WITH TOP HALF BLACKc BOTTOM HALF BLACKc UPPER RIGHT DIAGONAL HALF BLACK",
      "c LOWER LEFT DIAGONAL HALF BLACKaDIAMOND WITH LEFT HALF BLACKc RIGHT HALF BLACK",
      "c TOP HALF BLACKc BOTTOM HALF BLACKaDOTTED SQUAREaBLACK LARGE SQUAREaWHITE LARGE SQUARE",
      "aBLACK VERY SMALL SQUAREaWHITE VERY SMALL SQUAREaBLACK PENTAGONaWHITE PENTAGONb HEXAGON",
      "aBLACK HEXAGONaHORIZONTAL BLACK HEXAGONaBLACK LARGE CIRCLEb MEDIUM DIAMOND",
      "aWHITE MEDIUM DIAMONDaBLACK MEDIUM LOZENGEaWHITE MEDIUM LOZENGEaBLACK SMALL DIAMOND",
      "c LOZENGEaWHITE SMALL LOZENGEaBLACK HORIZONTAL ELLIPSEaWHITE HORIZONTAL ELLIPSE",
      "aBLACK VERTICAL ELLIPSEaWHITE VERTICAL ELLIPSEaLEFT ARROW WITH SMALL CIRCLE",
      "aTHREE LEFTWARDS ARROWSaLEFT ARROW WITH CIRCLED PLUSaLONG LEFTWARDS SQUIGGLE ARROW",
      "aLEFTWARDS TWO-HEADED ARROW WITH VERTICAL STROKEf DOUBLE VERTICAL STROKEe FROM BAR",
      "d TRIPLE DASH ARROWb ARROW WITH DOTTED STEMd TAIL WITH VERTICAL STROKE",
      "f DOUBLE VERTICAL STROKEb TWO-HEADED ARROW WITH TAILg WITH VERTICAL STROKE",
      "h DOUBLE VERTICAL STROKEb ARROW THROUGH XaWAVE ARROW POINTING DIRECTLY LEFT",
      "aEQUALS SIGN ABOVE LEFTWARDS ARROWaREVERSE TILDE OPERATOR ABOVE LEFTWARDS ARROW",
      "aLEFTWARDS ARROW ABOVE REVERSE ALMOST EQUAL TOaRIGHTWARDS ARROW THROUGH GREATER-THAN",
      "d SUPERSETaLEFTWARDS QUADRUPLE ARROWaRIGHTWARDS QUADRUPLE ARROW",
      "aREVERSE TILDE OPERATOR ABOVE RIGHTWARDS ARROW",
      "aRIGHTWARDS ARROW ABOVE REVERSE ALMOST EQUAL TOaTILDE OPERATOR ABOVE LEFTWARDS ARROW",
      "aLEFTWARDS ARROW ABOVE ALMOST EQUAL TOd REVERSE TILDE OPERATOR",
      "aRIGHTWARDS ARROW ABOVE REVERSE TILDE OPERATORaDOWNWARDS TRIANGLE-HEADED ZIGZAG ARROW",
      "aSHORT SLANTED NORTH ARROWb BACKSLANTED SOUTH ARROWaWHITE MEDIUM STARaBLACK SMALL STAR",
      "aWHITE SMALL STARaBLACK RIGHT-POINTING PENTAGONaWHITE RIGHT-POINTING PENTAGON",
      "aHEAVY LARGE CIRCLEb OVAL WITH OVAL INSIDEb CIRCLE WITH CIRCLE INSIDEcb CIRCLED SALTIRE",
      "aSLANTED NORTH ARROW WITH HOOKED HEADaBACKSLANTED SOUTH ARROW WITH HOOKED TAIL",
      "aSLANTED NORTH ARROW WITH HORIZONTAL TAILaBACKSLANTED SOUTH ARROW WITH HORIZONTAL TAIL",
      "aBENT ARROW POINTING DOWNWARDS THEN NORTH EAST",
      "aSHORT BENT ARROW POINTING DOWNWARDS THEN NORTH EASTaLEFTWARDS TRIANGLE-HEADED ARROW",
      "aUPWARDS TRIANGLE-HEADED ARROWaRIGHTWARDS TRIANGLE-HEADED ARROW",
      "aDOWNWARDS TRIANGLE-HEADED ARROWaLEFT RIGHT TRIANGLE-HEADED ARROW",
      "aUP DOWN TRIANGLE-HEADED ARROWaNORTH WEST TRIANGLE-HEADED ARROWb EAST TRIANGLE-HEADED ARROW",
      "aSOUTH EAST TRIANGLE-HEADED ARROWb WEST TRIANGLE-HEADED ARROW",
      "aLEFTWARDS TRIANGLE-HEADED DASHED ARROWaUPWARDS TRIANGLE-HEADED DASHED ARROW",
      "aRIGHTWARDS TRIANGLE-HEADED DASHED ARROWaDOWNWARDS TRIANGLE-HEADED DASHED ARROW",
      "aCLOCKWISE TRIANGLE-HEADED OPEN CIRCLE ARROW",
      "aANTICLOCKWISE TRIANGLE-HEADED OPEN CIRCLE ARROWaLEFTWARDS TRIANGLE-HEADED ARROW TO BAR",
      "aUPWARDS TRIANGLE-HEADED ARROW TO BARaRIGHTWARDS TRIANGLE-HEADED ARROW TO BAR",
      "aDOWNWARDS TRIANGLE-HEADED ARROW TO BAR"]⟩,
    ⟨0x2B76, ["aNORTH WEST TRIANGLE-HEADED ARROW TO BARb EAST TRIANGLE-HEADED ARROW TO BAR",
      "aSOUTH EAST TRIANGLE-HEADED ARROW TO BARb WEST TRIANGLE-HEADED ARROW TO BAR",
      "aLEFTWARDS TRIANGLE-HEADED ARROW WITH DOUBLE HORIZONTAL STROKE",
      "aUPWARDS TRIANGLE-HEADED ARROW WITH DOUBLE HORIZONTAL STROKE",
      "aRIGHTWARDS TRIANGLE-HEADED ARROW WITH DOUBLE HORIZONTAL STROKE",
      "aDOWNWARDS TRIANGLE-HEADED ARROW WITH DOUBLE HORIZONTAL STROKEaHORIZONTAL TAB KEY",
      "aVERTICAL TAB KEYaLEFTWARDS TRIANGLE-HEADED ARROW OVER RIGHTWARDS TRIANGLE-HEADED ARROW",
      "aUPWARDS TRIANGLE-HEADED ARROW LEFTWARDS OF DOWNWARDS TRIANGLE-HEADED ARROW",
      "aRIGHTWARDS TRIANGLE-HEADED ARROW OVER LEFTWARDS TRIANGLE-HEADED ARROW",
      "aDOWNWARDS TRIANGLE-HEADED ARROW LEFTWARDS OF UPWARDS TRIANGLE-HEADED ARROW",
      "aLEFTWARDS TRIANGLE-HEADED PAIRED ARROWSaUPWARDS TRIANGLE-HEADED PAIRED ARROWS",
      "aRIGHTWARDS TRIANGLE-HEADED PAIRED ARROWSaDOWNWARDS TRIANGLE-HEADED PAIRED ARROWS",
      "aLEFTWARDS BLACK CIRCLED WHITE ARROWaUPWARDS BLACK CIRCLED WHITE ARROW",
      "aRIGHTWARDS BLACK CIRCLED WHITE ARROWaDOWNWARDS BLACK CIRCLED WHITE ARROW",
      "aANTICLOCKWISE TRIANGLE-HEADED RIGHT U-SHAPED ARROWd BOTTOM U-SHAPED ARROW",
      "d LEFT U-SHAPED ARROWd TOP U-SHAPED ARROWaRETURN LEFTb RIGHTaNEWLINE LEFTb RIGHT",
      "aFOUR CORNER ARROWS CIRCLING ANTICLOCKWISEaRIGHTWARDS BLACK ARROW"]⟩,
    ⟨0x2B97, ["aSYMBOL FOR TYPE A ELECTRONICSaTHREE-D TOP-LIGHTED LEFTWARDS EQUILATERAL ARROWHEAD",
      "c RIGHT-LIGHTED UPWARDS EQUILATERAL ARROWHEADc TOP-LIGHTED RIGHTWARDS EQUILATERAL ARROWHEAD",
      "c LEFT-LIGHTED DOWNWARDS EQUILATERAL ARROWHEADaBLACK LEFTWARDS EQUILATERAL ARROWHEAD",
      "b UPWARDS EQUILATERAL ARROWHEADb RIGHTWARDS EQUILATERAL ARROWHEAD",
      "b DOWNWARDS EQUILATERAL ARROWHEADaDOWNWARDS TRIANGLE-HEADED ARROW WITH LONG TIP LEFTWARDS",
      "h RIGHTWARDSaUPWARDS TRIANGLE-HEADED ARROW WITH LONG TIP LEFTWARDSh RIGHTWARDS",
      "aLEFTWARDS TRIANGLE-HEADED ARROW WITH LONG TIP UPWARDS",
      "aRIGHTWARDS TRIANGLE-HEADED ARROW WITH LONG TIP UPWARDS",
      "aLEFTWARDS TRIANGLE-HEADED ARROW WITH LONG TIP DOWNWARDS",
      "aRIGHTWARDS TRIANGLE-HEADED ARROW WITH LONG TIP DOWNWARDS",
      "aBLACK CURVED DOWNWARDS AND LEFTWARDS ARROWe RIGHTWARDS ARROWc UPWARDS AND LEFTWARDS ARROW",
      "e RIGHTWARDS ARROWc LEFTWARDS AND UPWARDS ARROWc RIGHTWARDS AND UPWARDS ARROW",
      "c LEFTWARDS AND DOWNWARDS ARROWc RIGHTWARDS AND DOWNWARDS ARROWaRIBBON ARROW DOWN LEFT",
      "d RIGHTc UP LEFTd RIGHTc LEFT UPc RIGHT UPc LEFT DOWNc RIGHT DOWN",
      "aUPWARDS WHITE ARROW FROM BAR WITH HORIZONTAL BARaUP ARROWHEAD IN A RECTANGLE BOX",
      "aOVERLAPPING WHITE SQUARESc AND BLACK SQUARESb BLACK SQUARESaBALLOT BOX WITH LIGHT X",
      "aCIRCLED Xb BOLD XaBLACK SQUARE CENTREDb DIAMOND CENTREDaTURNED BLACK PENTAGON",
      "aHORIZONTAL BLACK OCTAGONaBLACK OCTAGONb MEDIUM UP-POINTING TRIANGLE CENTRED",
      "c DOWN-POINTING TRIANGLE CENTREDc LEFT-POINTING TRIANGLE CENTRED",
      "c RIGHT-POINTING TRIANGLE CENTREDaNEPTUNE FORM TWOaTOP HALF BLACK CIRCLE",
      "aBOTTOM HALF BLACK CIRCLEaLIGHT FOUR POINTED BLACK CUSP",
      "aROTATED LIGHT FOUR POINTED BLACK CUSPaWHITE FOUR POINTED CUSP",
      "aROTATED WHITE FOUR POINTED CUSPaSQUARE POSITION INDICATORaUNCERTAINTY SIGNaGROUP MARK",
      "aPLUTO FORM TWOc THREEc FOURc FIVEaTRANSPLUTOaPROSERPINAaASTRAEAaHYGIEAaPHOLUSaNESSUS",
      "aWHITE MOON SELENAaBLACK DIAMOND ON CROSSaTRUE LIGHT MOON ARTAaCUPIDOaHADESaZEUSaKRONOS",
      "aAPOLLONaADMETOSaVULCANUSaPOSEIDONaLEFT HALF BLACK STARaRIGHT HALF BLACK STAR",
      "aSTAR WITH LEFT HALF BLACKc RIGHT HALF BLACK",
      "aLEFTWARDS TWO-HEADED ARROW WITH TRIANGLE ARROWHEADS",
      "aUPWARDS TWO-HEADED ARROW WITH TRIANGLE ARROWHEADS",
      "aRIGHTWARDS TWO-HEADED ARROW WITH TRIANGLE ARROWHEADS",
      "aDOWNWARDS TWO-HEADED ARROW WITH TRIANGLE ARROWHEADSaERIS FORM ONEc TWOaSEDNA",
      "aRUSSIAN ASTROLOGICAL SYMBOL VIGINTILEd NOVILEd QUINTILEd BINOVILEd SENTAGONd TREDECILE",
      "aEQUALS SIGN WITH INFINITY BELOWaUNITED SYMBOLaSEPARATED SYMBOLaDOUBLED SYMBOL",
      "aPASSED SYMBOLaREVERSED RIGHT ANGLEaHELLSCHREIBER PAUSE SYMBOL",
      "aGLAGOLITIC CAPITAL LETTER AZUd BUKYd VEDEd GLAGOLId DOBROd YESTUd ZHIVETEd DZELOd ZEMLJA",
      "d IZHEd INITIAL IZHEd Id DJERVId KAKOd LJUDIJEd MYSLITEd NASHId ONUd POKOJId RITSId SLOVO",
      "d TVRIDOd UKUd FRITUd HERUd OTUd PEd SHTAd TSId CHRIVId SHAd YERUd YERId YATId SPIDERY HA",
      "d YUd SMALL YUSf WITH TAILd YOd IOTATED SMALL YUSd BIG YUSd IOTATED BIG YUSd FITAd IZHITSA",
      "d SHTAPICd TROKUTASTI Ad LATINATE MYSLITEd CAUDATE CHRIVIb SMALL LETTER AZUd BUKYd VEDE",
      "d GLAGOLId DOBROd YESTUd ZHIVETEd DZELOd ZEMLJAd IZHEd INITIAL IZHEd Id DJERVId KAKO",
      "d LJUDIJEd MYSLITEd NASHId ONUd POKOJId RITSId SLOVOd TVRIDOd UKUd FRITUd HERUd OTUd PE",
      "d SHTAd TSId CHRIVId SHAd YERUd YERId YATId SPIDERY HAd YUd SMALL YUSf WITH TAILd YO",
      "d IOTATED SMALL YUSd BIG YUSd IOTATED BIG YUSd FITAd IZHITSAd SHTAPICd TROKUTASTI A",
      "d LATINATE MYSLITEd CAUDATE CHRIVIaLATIN CAPITAL LETTER L WITH DOUBLE BAR",
      "b SMALL LETTER L WITH DOUBLE BARb CAPITAL LETTER L WITH MIDDLE TILDEd P WITH STROKE",
      "d R WITH TAILb SMALL LETTER A WITH STROKEd T WITH DIAGONAL STROKE",
      "b CAPITAL LETTER H WITH DESCENDERb SMALL LETTER H WITH DESCENDER",
      "b CAPITAL LETTER K WITH DESCENDERb SMALL LETTER K WITH DESCENDER",
      "b CAPITAL LETTER Z WITH DESCENDERb SMALL LETTER Z WITH DESCENDERb CAPITAL LETTER ALPHA",
      "d M WITH HOOKd TURNED Ae ALPHAb SMALL LETTER V WITH RIGHT HOOKb CAPITAL LETTER W WITH HOOK",
      "b SMALL LETTER W WITH HOOKd V WITH CURLb CAPITAL LETTER HALF Hb SMALL LETTER HALF H",
      "d TAILLESS PHId E WITH NOTCHd TURNED R WITH TAILd O WITH LOW RING INSIDE",
      "b LETTER SMALL CAPITAL TURNED Eb SUBSCRIPT SMALL LETTER JaMODIFIER LETTER CAPITAL V",
      "aLATIN CAPITAL LETTER S WITH SWASH TAILd Z WITH SWASH TAILaCOPTIC CAPITAL LETTER ALFA",
      "b SMALL LETTER ALFAb CAPITAL LETTER VIDAb SMALL LETTER VIDAb CAPITAL LETTER GAMMA",
      "b SMALL LETTER GAMMAb CAPITAL LETTER DALDAb SMALL LETTER DALDAb CAPITAL LETTER EIE",
      "b SMALL LETTER EIEb CAPITAL LETTER SOUb SMALL LETTER SOUb CAPITAL LETTER ZATA",
      "b SMALL LETTER ZATAb CAPITAL LETTER HATEb SMALL LETTER HATEb CAPITAL LETTER THETHE",
      "b SMALL LETTER THETHEb CAPITAL LETTER IAUDAb SMALL LETTER IAUDAb CAPITAL LETTER KAPA",
      "b SMALL LETTER KAPAb CAPITAL LETTER LAULAb SMALL LETTER LAULAb CAPITAL LETTER MI",
      "b SMALL LETTER MIb CAPITAL LETTER NIb SMALL LETTER NIb CAPITAL LETTER KSIb SMALL LETTER KSI",
      "b CAPITAL LETTER Ob SMALL LETTER Ob CAPITAL LETTER PIb SMALL LETTER PIb CAPITAL LETTER RO",
      "b SMALL LETTER ROb CAPITAL LETTER SIMAb SMALL LETTER SIMAb CAPITAL LETTER TAU",
      "b SMALL LETTER TAUb CAPITAL LETTER UAb SMALL LETTER UAb CAPITAL LETTER FIb SMALL LETTER FI",
      "b CAPITAL LETTER KHIb SMALL LETTER KHIb CAPITAL LETTER PSIb SMALL LETTER PSI",
      "b CAPITAL LETTER OOUb SMALL LETTER OOUb CAPITAL LETTER DIALECT-P ALEF",
      "b SMALL LETTER DIALECT-P ALEFb CAPITAL LETTER OLD COPTIC AINb SMALL LETTER OLD COPTIC AIN",
      "b CAPITAL LETTER CRYPTOGRAMMIC EIEb SMALL LETTER CRYPTOGRAMMIC EIE",
      "b CAPITAL LETTER DIALECT-P KAPAb SMALL LETTER DIALECT-P KAPAb CAPITAL LETTER DIALECT-P NI",
      "b SMALL LETTER DIALECT-P NIb CAPITAL LETTER CRYPTOGRAMMIC NIb SMALL LETTER CRYPTOGRAMMIC NI",
      "b CAPITAL LETTER OLD COPTIC OOUb SMALL LETTER OLD COPTIC OOUb CAPITAL LETTER SAMPI",
      "b SMALL LETTER SAMPIb CAPITAL LETTER CROSSED SHEIb SMALL LETTER CROSSED SHEI",
      "b CAPITAL LETTER OLD COPTIC SHEIb SMALL LETTER OLD COPTIC SHEI",
      "b CAPITAL LETTER OLD COPTIC ESHb SMALL LETTER OLD COPTIC ESHb CAPITAL LETTER AKHMIMIC KHEI",
      "b SMALL LETTER AKHMIMIC KHEIb CAPITAL LETTER DIALECT-P HORIb SMALL LETTER DIALECT-P HORI",
      "b CAPITAL LETTER OLD COPTIC HORIb SMALL LETTER OLD COPTIC HORI",
      "b CAPITAL LETTER OLD COPTIC HAb SMALL LETTER OLD COPTIC HAb CAPITAL LETTER L-SHAPED HA",
      "b SMALL LETTER L-SHAPED HAb CAPITAL LETTER OLD COPTIC HEIb SMALL LETTER OLD COPTIC HEI",
      "b CAPITAL LETTER OLD COPTIC HATb SMALL LETTER OLD COPTIC HAT",
      "b CAPITAL LETTER OLD COPTIC GANGIAb SMALL LETTER OLD COPTIC GANGIA",
      "b CAPITAL LETTER OLD COPTIC DJAb SMALL LETTER OLD COPTIC DJA",
      "b CAPITAL LETTER OLD COPTIC SHIMAb SMALL LETTER OLD COPTIC SHIMA",
      "b CAPITAL LETTER OLD NUBIAN SHIMAb SMALL LETTER OLD NUBIAN SHIMA",
      "b CAPITAL LETTER OLD NUBIAN NGIb SMALL LETTER OLD NUBIAN NGIb CAPITAL LETTER OLD NUBIAN NYI",
      "b SMALL LETTER OLD NUBIAN NYIb CAPITAL LETTER OLD NUBIAN WAUb SMALL LETTER OLD NUBIAN WAU",
      "b SYMBOL KAIc MI ROc PI ROc STAUROSc TAU ROc KHI ROc SHIMA SIMA",
      "b CAPITAL LETTER CRYPTOGRAMMIC SHEIb SMALL LETTER CRYPTOGRAMMIC SHEI",
      "b CAPITAL LETTER CRYPTOGRAMMIC GANGIAb SMALL LETTER CRYPTOGRAMMIC GANGIA",
      "b COMBINING NI ABOVEc SPIRITUS ASPERd LENISb CAPITAL LETTER BOHAIRIC KHEI",
      "b SMALL LETTER BOHAIRIC KHEI"]⟩,
    ⟨0x2CF9, ["aCOPTIC OLD NUBIAN FULL STOPd DIRECT QUESTION MARKd INDIRECT QUESTION MARK",
      "d VERSE DIVIDERb FRACTION ONE HALFb FULL STOPb MORPHOLOGICAL DIVIDER",
      "aGEORGIAN SMALL LETTER ANd BANd GANd DONd ENd VINd ZENd TANd INd KANd LASd MANd NARd ON",
      "d PARd ZHARd RAEd SANd TARd UNd PHARd KHARd GHANd QARd SHINd CHINd CANd JILd CILd CHARd XAN",
      "d JHANd HAEd HEd HIEd WEd HARd HOE"]⟩,
    ⟨0x2D27, ["aGEORGIAN SMALL LETTER YN"]⟩,
    ⟨0x2D2D, ["aGEORGIAN SMALL LETTER AEN"]⟩,
    ⟨0x2D30, ["aTIFINAGH LETTER YAc YABc YABHc YAGc YAGHHc BERBER ACADEMY YAJc YAJc YADc YADH",
      "c YADDc YADDHc YEYc YAFc YAKc TUAREG YAKc YAKHHc YAHc BERBER ACADEMY YAHc TUAREG YAHc YAHH",
      "c YAAc YAKHc TUAREG YAKHc YAQc TUAREG YAQc YIc YAZHc AHAGGAR YAZHc TUAREG YAZHc YALc YAM",
      "c YANc TUAREG YAGNd YANGc YAPc YUc YARc YARRc YAGHc TUAREG YAGHc AYER YAGHc YASc YASSc YASH",
      "c YATc YATHc YACHc YATTc YAVc YAWc YAYc YAZc TAWELLEMET YAZc YAZZc YEc YO"]⟩,
    ⟨0x2D6F, ["aTIFINAGH MODIFIER LETTER LABIALIZATION MARKb SEPARATOR MARK"]⟩,
    ⟨0x2D7F, ["aTIFINAGH CONSONANT JOINERaETHIOPIC SYLLABLE LOAc MOAc ROAc SOAc SHOAc BOAc TOA",
      "c COAc NOAc NYOAc GLOTTAL OAc ZOAc DOAc DDOAc JOAc THOAc CHOAc PHOAc POAc GGWAc GGWIc GGWEE",
      "c GGWE"]⟩,
    ⟨0x2DA0, ["aETHIOPIC SYLLABLE SSAc SSUc SSIc SSAAc SSEEc SSEc SSO"]⟩,
    ⟨0x2DA8, ["aETHIOPIC SYLLABLE CCAc CCUc CCIc CCAAc CCEEc CCEc CCO"]⟩,
    ⟨0x2DB0, ["aETHIOPIC SYLLABLE ZZAc ZZUc ZZIc ZZAAc ZZEEc ZZEc ZZO"]⟩,
    ⟨0x2DB8, ["aETHIOPIC SYLLABLE CCHAc CCHUc CCHIc CCHAAc CCHEEc CCHEc CCHO"]⟩,
    ⟨0x2DC0, ["aETHIOPIC SYLLABLE QYAc QYUc QYIc QYAAc QYEEc QYEc QYO"]⟩,
    ⟨0x2DC8, ["aETHIOPIC SYLLABLE KYAc KYUc KYIc KYAAc KYEEc KYEc KYO"]⟩,
    ⟨0x2DD0, ["aETHIOPIC SYLLABLE XYAc XYUc XYIc XYAAc XYEEc XYEc XYO"]⟩,
    ⟨0x2DD8, ["aETHIOPIC SYLLABLE GYAc GYUc GYIc GYAAc GYEEc GYEc GYO"]⟩,
    ⟨0x2DE0, ["aCOMBINING CYRILLIC LETTER BEd VEd GHEd DEd ZHEd ZEd KAd ELd EMd ENd Od PEd ERd ES",
      "d TEd HAd TSEd CHEd SHAd SHCHAd FITAd ES-TEd Ad IEd DJERVd MONOGRAPH UKd YATd YU",
      "d IOTIFIED Ad LITTLE YUSd BIG YUSd IOTIFIED BIG YUSaRIGHT ANGLE SUBSTITUTION MARKER",
      "c DOTTED SUBSTITUTION MARKERaLEFT SUBSTITUTION BRACKETaRIGHT SUBSTITUTION BRACKET",
      "aLEFT DOTTED SUBSTITUTION BRACKETaRIGHT DOTTED SUBSTITUTION BRACKET",
      "aRAISED INTERPOLATION MARKERb DOTTED INTERPOLATION MARKERaDOTTED TRANSPOSITION MARKER",
      "aLEFT TRANSPOSITION BRACKETaRIGHT TRANSPOSITION BRACKETaRAISED SQUARE",
      "aLEFT RAISED OMISSION BRACKETaRIGHT RAISED OMISSION BRACKETaEDITORIAL CORONISaPARAGRAPHOS",
      "aFORKED PARAGRAPHOSaREVERSED FORKED PARAGRAPHOSaHYPODIASTOLEaDOTTED OBELOSaDOWNWARDS ANCORA",
      "aUPWARDS ANCORAaDOTTED RIGHT-POINTING ANGLEaDOUBLE OBLIQUE HYPHENaINVERTED INTERROBANG",
      "aPALM BRANCHaHYPHEN WITH DIAERESISaTILDE WITH RING ABOVEaLEFT LOW PARAPHRASE BRACKET",
      "aRIGHT LOW PARAPHRASE BRACKETaTILDE WITH DOT ABOVEd BELOWaLEFT VERTICAL BAR WITH QUILL",
      "aRIGHT VERTICAL BAR WITH QUILLaTOP LEFT HALF BRACKETb RIGHT HALF BRACKET",
      "aBOTTOM LEFT HALF BRACKETb RIGHT HALF BRACKETaLEFT SIDEWAYS U BRACKET",
      "aRIGHT SIDEWAYS U BRACKETaLEFT DOUBLE PARENTHESISaRIGHT DOUBLE PARENTHESIS",
      "aTWO DOTS OVER ONE DOT PUNCTUATIONaONE DOT OVER TWO DOTS PUNCTUATION",
      "aSQUARED FOUR DOT PUNCTUATIONaFIVE DOT MARKaREVERSED QUESTION MARKaVERTICAL TILDE",
      "aRING POINTaWORD SEPARATOR MIDDLE DOTaTURNED COMMAaRAISED DOTb COMMAaTURNED SEMICOLON",
      "aDAGGER WITH LEFT GUARDc RIGHT GUARDaTURNED DAGGERaTOP HALF SECTION SIGNaTWO-EM DASH",
      "aTHREE-EM DASHaSTENOGRAPHIC FULL STOPaVERTICAL SIX DOTSaWIGGLY VERTICAL LINEaCAPITULUM",
      "aDOUBLE HYPHENaREVERSED COMMAaDOUBLE LOW-REVERSED-9 QUOTATION MARKaDASH WITH LEFT UPTURN",
      "aDOUBLE SUSPENSION MARKaINVERTED LOW KAVYKAd WITH KAVYKA ABOVEaLOW KAVYKAc WITH DOT",
      "aDOUBLE STACKED COMMAaDOTTED SOLIDUSaTRIPLE DAGGERaMEDIEVAL COMMAaPARAGRAPHUS MARK",
      "aPUNCTUS ELEVATUS MARKaCORNISH VERSE DIVIDERaCROSS PATTY WITH RIGHT CROSSBARd LEFT CROSSBAR",
      "aTIRONIAN SIGN CAPITAL ETaMEDIEVAL EXCLAMATION MARKb QUESTION MARK",
      "aLEFT SQUARE BRACKET WITH STROKEaRIGHT SQUARE BRACKET WITH STROKE",
      "aLEFT SQUARE BRACKET WITH DOUBLE STROKEaRIGHT SQUARE BRACKET WITH DOUBLE STROKE",
      "aTOP HALF LEFT PARENTHESISc RIGHT PARENTHESISaBOTTOM HALF LEFT PARENTHESIS",
      "c RIGHT PARENTHESISaOBLIQUE HYPHEN"]⟩,
    ⟨0x2E80, ["aCJK RADICAL REPEATc CLIFFc SECOND ONEd TWOd THREEc PERSONc BOXc TABLEc KNIFE ONE",
      "d TWOc DIVINATIONc SEALc SMALL ONEd TWOc LAME ONEd TWOd THREEd FOURc SNAKEc THREAD",
      "c SNOUT ONEd TWOc HEART ONEd TWOc HANDc RAP"]⟩,
    ⟨0x2E9B, ["aCJK RADICAL CHOKEc SUNc MOONc DEATHc MOTHERc CIVILIANc WATER ONEd TWOc FIRE",
      "c PAW ONEd TWOc SIMPLIFIED HALF TREE TRUNKc COWc DOGc JADEc BOLT OF CLOTHc EYEc SPIRIT ONE",
      "d TWOc BAMBOOc SILKc C-SIMPLIFIED SILKc NET ONEd TWOd THREEd FOURc MESHc SHEEPc RAMc EWE",
      "c OLDc BRUSH ONEd TWOc MEATc MORTARc GRASS ONEd TWOd THREEc TIGERc CLOTHESc WEST ONEd TWO",
      "c C-SIMPLIFIED SEEc SIMPLIFIED HORNc HORNc C-SIMPLIFIED SPEECHe SHELLc FOOT",
      "c C-SIMPLIFIED CARTc SIMPLIFIED WALKc WALK ONEd TWOc CITYc C-SIMPLIFIED GOLDc LONG ONEd TWO",
      "c C-SIMPLIFIED LONGe GATEc MOUND ONEd TWOc RAINc BLUEc C-SIMPLIFIED TANNED LEATHERe LEAF",
      "e WINDe FLYc EAT ONEd TWOd THREEc C-SIMPLIFIED EATc HEADc C-SIMPLIFIED HORSEc BONEc GHOST",
      "c C-SIMPLIFIED FISHe BIRDe SALTc SIMPLIFIED WHEATd YELLOWc C-SIMPLIFIED FROG",
      "c J-SIMPLIFIED EVENc C-SIMPLIFIED EVENc J-SIMPLIFIED TOOTHc C-SIMPLIFIED TOOTH",
      "c J-SIMPLIFIED DRAGONc C-SIMPLIFIED DRAGONc TURTLEc J-SIMPLIFIED TURTLE",
      "c C-SIMPLIFIED TURTLE"]⟩,
    ⟨0x2F00, ["aKANGXI RADICAL ONEc LINEc DOTc SLASHc SECONDc HOOKc TWOc LIDc MANc LEGSc ENTER",
      "c EIGHTc DOWN BOXc COVERc ICEc TABLEc OPEN BOXc KNIFEc POWERc WRAPc SPOONc RIGHT OPEN BOX",
      "c HIDING ENCLOSUREc TENc DIVINATIONc SEALc CLIFFc PRIVATEc AGAINc MOUTHc ENCLOSUREc EARTH",
      "c SCHOLARc GOd SLOWLYc EVENINGc BIGc WOMANc CHILDc ROOFc INCHc SMALLc LAMEc CORPSEc SPROUT",
      "c MOUNTAINc RIVERc WORKc ONESELFc TURBANc DRYc SHORT THREADc DOTTED CLIFFc LONG STRIDE",
      "c TWO HANDSc SHOOTc BOWc SNOUTc BRISTLEc STEPc HEARTc HALBERDc DOORc HANDc BRANCHc RAP",
      "c SCRIPTc DIPPERc AXEc SQUAREc NOTc SUNc SAYc MOONc TREEc LACKc STOPc DEATHc WEAPONc DO NOT",
      "c COMPAREc FURc CLANc STEAMc WATERc FIREc CLAWc FATHERc DOUBLE Xc HALF TREE TRUNKc SLICE",
      "c FANGc COWc DOGc PROFOUNDc JADEc MELONc TILEc SWEETc LIFEc USEc FIELDc BOLT OF CLOTH",
      "c SICKNESSc DOTTED TENTc WHITEc SKINc DISHc EYEc SPEARc ARROWc STONEc SPIRITc TRACKc GRAIN",
      "c CAVEc STANDc BAMBOOc RICEc SILKc JARc NETc SHEEPc FEATHERc OLDc ANDc PLOWc EARc BRUSH",
      "c MEATc MINISTERc SELFc ARRIVEc MORTARc TONGUEc OPPOSEc BOATc STOPPINGc COLORc GRASSc TIGER",
      "c INSECTc BLOODc WALK ENCLOSUREc CLOTHESc WESTc SEEc HORNc SPEECHc VALLEYc BEANc PIG",
      "c BADGERc SHELLc REDc RUNc FOOTc BODYc CARTc BITTERc MORNINGc WALKc CITYc WINEc DISTINGUISH",
      "c VILLAGEc GOLDc LONGc GATEc MOUNDc SLAVEc SHORT TAILED BIRDc RAINc BLUEc WRONGc FACE",
      "c LEATHERc TANNED LEATHERc LEEKc SOUNDc LEAFc WINDc FLYc EATc HEADc FRAGRANTc HORSEc BONE",
      "c TALLc HAIRc FIGHTc SACRIFICIAL WINEc CAULDRONc GHOSTc FISHc BIRDc SALTc DEERc WHEATc HEMP",
      "c YELLOWc MILLETc BLACKc EMBROIDERYc FROGc TRIPODc DRUMc RATc NOSEc EVENc TOOTHc DRAGON",
      "c TURTLEc FLUTE"]⟩,
    ⟨0x2FF0, ["aIDEOGRAPHIC DESCRIPTION CHARACTER LEFT TO RIGHTd ABOVE TO BELOW",
      "d LEFT TO MIDDLE AND RIGHTd ABOVE TO MIDDLE AND BELOWd FULL SURROUNDd SURROUND FROM ABOVE",
      "f BELOWf LEFTf UPPER LEFTg RIGHTf LOWER LEFTd OVERLAID"]⟩
  ]

end PromptContract.Text

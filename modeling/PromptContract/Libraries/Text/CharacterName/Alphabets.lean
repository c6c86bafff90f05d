import PromptContract.Libraries.Text.CharacterName.Run

/-!
# Names of characters: alphabets

The names of the alphabets of Europe, the Near East, India and Tibet:
the characters from U+0000 to U+0FFF, by runs.
-/

namespace PromptContract.Text

/-- The names of the alphabets of Europe, the Near East, India and Tibet. -/
def alphabetNames : Array NameRun :=
  #[
    ⟨0x20, ["aSPACEaEXCLAMATION MARKaQUOTATION MARKaNUMBER SIGNaDOLLAR SIGNaPERCENT SIGNaAMPERSAND",
      "aAPOSTROPHEaLEFT PARENTHESISaRIGHT PARENTHESISaASTERISKaPLUS SIGNaCOMMAaHYPHEN-MINUS",
      "aFULL STOPaSOLIDUSaDIGIT ZEROb ONEb TWOb THREEb FOURb FIVEb SIXb SEVENb EIGHTb NINEaCOLON",
      "aSEMICOLONaLESS-THAN SIGNaEQUALS SIGNaGREATER-THAN SIGNaQUESTION MARKaCOMMERCIAL AT",
      "aLATIN CAPITAL LETTER Ad Bd Cd Dd Ed Fd Gd Hd Id Jd Kd Ld Md Nd Od Pd Qd Rd Sd Td Ud Vd W",
      "d Xd Yd ZaLEFT SQUARE BRACKETaREVERSE SOLIDUSaRIGHT SQUARE BRACKETaCIRCUMFLEX ACCENT",
      "aLOW LINEaGRAVE ACCENTaLATIN SMALL LETTER Ad Bd Cd Dd Ed Fd Gd Hd Id Jd Kd Ld Md Nd Od Pd Q",
      "d Rd Sd Td Ud Vd Wd Xd Yd ZaLEFT CURLY BRACKETaVERTICAL LINEaRIGHT CURLY BRACKETaTILDE"]⟩,
    ⟨0xA0, ["aNO-BREAK SPACEaINVERTED EXCLAMATION MARKaCENT SIGNaPOUND SIGNaCURRENCY SIGNaYEN SIGN",
      "aBROKEN BARaSECTION SIGNaDIAERESISaCOPYRIGHT SIGNaFEMININE ORDINAL INDICATOR",
      "aLEFT-POINTING DOUBLE ANGLE QUOTATION MARKaNOT SIGNaSOFT HYPHENaREGISTERED SIGNaMACRON",
      "aDEGREE SIGNaPLUS-MINUS SIGNaSUPERSCRIPT TWOb THREEaACUTE ACCENTaMICRO SIGNaPILCROW SIGN",
      "aMIDDLE DOTaCEDILLAaSUPERSCRIPT ONEaMASCULINE ORDINAL INDICATOR",
      "aRIGHT-POINTING DOUBLE ANGLE QUOTATION MARKaVULGAR FRACTION ONE QUARTERd HALF",
      "c THREE QUARTERSaINVERTED QUESTION MARKaLATIN CAPITAL LETTER A WITH GRAVEf ACUTE",
      "f CIRCUMFLEXf TILDEf DIAERESISf RING ABOVEd AEd C WITH CEDILLAd E WITH GRAVEf ACUTE",
      "f CIRCUMFLEXf DIAERESISd I WITH GRAVEf ACUTEf CIRCUMFLEXf DIAERESISd ETHd N WITH TILDE",
      "d O WITH GRAVEf ACUTEf CIRCUMFLEXf TILDEf DIAERESISaMULTIPLICATION SIGN",
      "aLATIN CAPITAL LETTER O WITH STROKEd U WITH GRAVEf ACUTEf CIRCUMFLEXf DIAERESIS",
      "d Y WITH ACUTEd THORNb SMALL LETTER SHARP Sd A WITH GRAVEf ACUTEf CIRCUMFLEXf TILDE",
      "f DIAERESISf RING ABOVEd AEd C WITH CEDILLAd E WITH GRAVEf ACUTEf CIRCUMFLEXf DIAERESIS",
      "d I WITH GRAVEf ACUTEf CIRCUMFLEXf DIAERESISd ETHd N WITH TILDEd O WITH GRAVEf ACUTE",
      "f CIRCUMFLEXf TILDEf DIAERESISaDIVISION SIGNaLATIN SMALL LETTER O WITH STROKEd U WITH GRAVE",
      "f ACUTEf CIRCUMFLEXf DIAERESISd Y WITH ACUTEd THORNd Y WITH DIAERESIS",
      "b CAPITAL LETTER A WITH MACRONb SMALL LETTER A WITH MACRONb CAPITAL LETTER A WITH BREVE",
      "b SMALL LETTER A WITH BREVEb CAPITAL LETTER A WITH OGONEKb SMALL LETTER A WITH OGONEK",
      "b CAPITAL LETTER C WITH ACUTEb SMALL LETTER C WITH ACUTEb CAPITAL LETTER C WITH CIRCUMFLEX",
      "b SMALL LETTER C WITH CIRCUMFLEXb CAPITAL LETTER C WITH DOT ABOVE",
      "b SMALL LETTER C WITH DOT ABOVEb CAPITAL LETTER C WITH CARONb SMALL LETTER C WITH CARON",
      "b CAPITAL LETTER D WITH CARONb SMALL LETTER D WITH CARONb CAPITAL LETTER D WITH STROKE",
      "b SMALL LETTER D WITH STROKEb CAPITAL LETTER E WITH MACRONb SMALL LETTER E WITH MACRON",
      "b CAPITAL LETTER E WITH BREVEb SMALL LETTER E WITH BREVEb CAPITAL LETTER E WITH DOT ABOVE",
      "b SMALL LETTER E WITH DOT ABOVEb CAPITAL LETTER E WITH OGONEKb SMALL LETTER E WITH OGONEK",
      "b CAPITAL LETTER E WITH CARONb SMALL LETTER E WITH CARONb CAPITAL LETTER G WITH CIRCUMFLEX",
      "b SMALL LETTER G WITH CIRCUMFLEXb CAPITAL LETTER G WITH BREVEb SMALL LETTER G WITH BREVE",
      "b CAPITAL LETTER G WITH DOT ABOVEb SMALL LETTER G WITH DOT ABOVE",
      "b CAPITAL LETTER G WITH CEDILLAb SMALL LETTER G WITH CEDILLA",
      "b CAPITAL LETTER H WITH CIRCUMFLEXb SMALL LETTER H WITH CIRCUMFLEX",
      "b CAPITAL LETTER H WITH STROKEb SMALL LETTER H WITH STROKEb CAPITAL LETTER I WITH TILDE",
      "b SMALL LETTER I WITH TILDEb CAPITAL LETTER I WITH MACRONb SMALL LETTER I WITH MACRON",
      "b CAPITAL LETTER I WITH BREVEb SMALL LETTER I WITH BREVEb CAPITAL LETTER I WITH OGONEK",
      "b SMALL LETTER I WITH OGONEKb CAPITAL LETTER I WITH DOT ABOVEb SMALL LETTER DOTLESS I",
      "b CAPITAL LIGATURE IJb SMALL LIGATURE IJb CAPITAL LETTER J WITH CIRCUMFLEX",
      "b SMALL LETTER J WITH CIRCUMFLEXb CAPITAL LETTER K WITH CEDILLA",
      "b SMALL LETTER K WITH CEDILLAd KRAb CAPITAL LETTER L WITH ACUTEb SMALL LETTER L WITH ACUTE",
      "b CAPITAL LETTER L WITH CEDILLAb SMALL LETTER L WITH CEDILLAb CAPITAL LETTER L WITH CARON",
      "b SMALL LETTER L WITH CARONb CAPITAL LETTER L WITH MIDDLE DOT",
      "b SMALL LETTER L WITH MIDDLE DOTb CAPITAL LETTER L WITH STROKEb SMALL LETTER L WITH STROKE",
      "b CAPITAL LETTER N WITH ACUTEb SMALL LETTER N WITH ACUTEb CAPITAL LETTER N WITH CEDILLA",
      "b SMALL LETTER N WITH CEDILLAb CAPITAL LETTER N WITH CARONb SMALL LETTER N WITH CARON",
      "e PRECEDED BY APOSTROPHEb CAPITAL LETTER ENGb SMALL LETTER ENG",
      "b CAPITAL LETTER O WITH MACRONb SMALL LETTER O WITH MACRONb CAPITAL LETTER O WITH BREVE",
      "b SMALL LETTER O WITH BREVEb CAPITAL LETTER O WITH DOUBLE ACUTE",
      "b SMALL LETTER O WITH DOUBLE ACUTEb CAPITAL LIGATURE OEb SMALL LIGATURE OE",
      "b CAPITAL LETTER R WITH ACUTEb SMALL LETTER R WITH ACUTEb CAPITAL LETTER R WITH CEDILLA",
      "b SMALL LETTER R WITH CEDILLAb CAPITAL LETTER R WITH CARONb SMALL LETTER R WITH CARON",
      "b CAPITAL LETTER S WITH ACUTEb SMALL LETTER S WITH ACUTEb CAPITAL LETTER S WITH CIRCUMFLEX",
      "b SMALL LETTER S WITH CIRCUMFLEXb CAPITAL LETTER S WITH CEDILLA",
      "b SMALL LETTER S WITH CEDILLAb CAPITAL LETTER S WITH CARONb SMALL LETTER S WITH CARON",
      "b CAPITAL LETTER T WITH CEDILLAb SMALL LETTER T WITH CEDILLAb CAPITAL LETTER T WITH CARON",
      "b SMALL LETTER T WITH CARONb CAPITAL LETTER T WITH STROKEb SMALL LETTER T WITH STROKE",
      "b CAPITAL LETTER U WITH TILDEb SMALL LETTER U WITH TILDEb CAPITAL LETTER U WITH MACRON",
      "b SMALL LETTER U WITH MACRONb CAPITAL LETTER U WITH BREVEb SMALL LETTER U WITH BREVE",
      "b CAPITAL LETTER U WITH RING ABOVEb SMALL LETTER U WITH RING ABOVE",
      "b CAPITAL LETTER U WITH DOUBLE ACUTEb SMALL LETTER U WITH DOUBLE ACUTE",
      "b CAPITAL LETTER U WITH OGONEKb SMALL LETTER U WITH OGONEK",
      "b CAPITAL LETTER W WITH CIRCUMFLEXb SMALL LETTER W WITH CIRCUMFLEX",
      "b CAPITAL LETTER Y WITH CIRCUMFLEXb SMALL LETTER Y WITH CIRCUMFLEX",
      "b CAPITAL LETTER Y WITH DIAERESISd Z WITH ACUTEb SMALL LETTER Z WITH ACUTE",
      "b CAPITAL LETTER Z WITH DOT ABOVEb SMALL LETTER Z WITH DOT ABOVE",
      "b CAPITAL LETTER Z WITH CARONb SMALL LETTER Z WITH CARONd LONG Sd B WITH STROKE",
      "b CAPITAL LETTER B WITH HOOKf TOPBARb SMALL LETTER B WITH TOPBARb CAPITAL LETTER TONE SIX",
      "b SMALL LETTER TONE SIXb CAPITAL LETTER OPEN Od C WITH HOOKb SMALL LETTER C WITH HOOK",
      "b CAPITAL LETTER AFRICAN Dd D WITH HOOKf TOPBARb SMALL LETTER D WITH TOPBARd TURNED DELTA",
      "b CAPITAL LETTER REVERSED Ed SCHWAd OPEN Ed F WITH HOOKb SMALL LETTER F WITH HOOK",
      "b CAPITAL LETTER G WITH HOOKd GAMMAb SMALL LETTER HVb CAPITAL LETTER IOTAd I WITH STROKE",
      "d K WITH HOOKb SMALL LETTER K WITH HOOKd L WITH BARd LAMBDA WITH STROKE",
      "b CAPITAL LETTER TURNED Md N WITH LEFT HOOKb SMALL LETTER N WITH LONG RIGHT LEG",
      "b CAPITAL LETTER O WITH MIDDLE TILDEf HORNb SMALL LETTER O WITH HORNb CAPITAL LETTER OI",
      "b SMALL LETTER OIb CAPITAL LETTER P WITH HOOKb SMALL LETTER P WITH HOOKb LETTER YR",
      "b CAPITAL LETTER TONE TWOb SMALL LETTER TONE TWOb CAPITAL LETTER ESH",
      "b LETTER REVERSED ESH LOOPb SMALL LETTER T WITH PALATAL HOOKb CAPITAL LETTER T WITH HOOK",
      "b SMALL LETTER T WITH HOOKb CAPITAL LETTER T WITH RETROFLEX HOOKd U WITH HORN",
      "b SMALL LETTER U WITH HORNb CAPITAL LETTER UPSILONd V WITH HOOKd Y WITH HOOK",
      "b SMALL LETTER Y WITH HOOKb CAPITAL LETTER Z WITH STROKEb SMALL LETTER Z WITH STROKE",
      "b CAPITAL LETTER EZHe REVERSEDb SMALL LETTER EZH REVERSEDe WITH TAIL",
      "b LETTER TWO WITH STROKEb CAPITAL LETTER TONE FIVEb SMALL LETTER TONE FIVE",
      "b LETTER INVERTED GLOTTAL STOP WITH STROKEc WYNNc DENTAL CLICKc LATERAL CLICK",
      "c ALVEOLAR CLICKc RETROFLEX CLICKb CAPITAL LETTER DZ WITH CARON",
      "d D WITH SMALL LETTER Z WITH CARONb SMALL LETTER DZ WITH CARONb CAPITAL LETTER LJ",
      "d L WITH SMALL LETTER Jb SMALL LETTER LJb CAPITAL LETTER NJd N WITH SMALL LETTER J",
      "b SMALL LETTER NJb CAPITAL LETTER A WITH CARONb SMALL LETTER A WITH CARON",
      "b CAPITAL LETTER I WITH CARONb SMALL LETTER I WITH CARONb CAPITAL LETTER O WITH CARON",
      "b SMALL LETTER O WITH CARONb CAPITAL LETTER U WITH CARONb SMALL LETTER U WITH CARON",
      "b CAPITAL LETTER U WITH DIAERESIS AND MACRONb SMALL LETTER U WITH DIAERESIS AND MACRON",
      "b CAPITAL LETTER U WITH DIAERESIS AND ACUTEb SMALL LETTER U WITH DIAERESIS AND ACUTE",
      "b CAPITAL LETTER U WITH DIAERESIS AND CARONb SMALL LETTER U WITH DIAERESIS AND CARON",
      "b CAPITAL LETTER U WITH DIAERESIS AND GRAVEb SMALL LETTER U WITH DIAERESIS AND GRAVE",
      "d TURNED Eb CAPITAL LETTER A WITH DIAERESIS AND MACRON",
      "b SMALL LETTER A WITH DIAERESIS AND MACRONb CAPITAL LETTER A WITH DOT ABOVE AND MACRON",
      "b SMALL LETTER A WITH DOT ABOVE AND MACRONb CAPITAL LETTER AE WITH MACRON",
      "b SMALL LETTER AE WITH MACRONb CAPITAL LETTER G WITH STROKEb SMALL LETTER G WITH STROKE",
      "b CAPITAL LETTER G WITH CARONb SMALL LETTER G WITH CARONb CAPITAL LETTER K WITH CARON",
      "b SMALL LETTER K WITH CARONb CAPITAL LETTER O WITH OGONEKb SMALL LETTER O WITH OGONEK",
      "b CAPITAL LETTER O WITH OGONEK AND MACRONb SMALL LETTER O WITH OGONEK AND MACRON",
      "b CAPITAL LETTER EZH WITH CARONb SMALL LETTER EZH WITH CARONd J WITH CARON",
      "b CAPITAL LETTER DZd D WITH SMALL LETTER Zb SMALL LETTER DZb CAPITAL LETTER G WITH ACUTE",
      "b SMALL LETTER G WITH ACUTEb CAPITAL LETTER HWAIRd WYNNd N WITH GRAVE",
      "b SMALL LETTER N WITH GRAVEb CAPITAL LETTER A WITH RING ABOVE AND ACUTE",
      "b SMALL LETTER A WITH RING ABOVE AND ACUTEb CAPITAL LETTER AE WITH ACUTE",
      "b SMALL LETTER AE WITH ACUTEb CAPITAL LETTER O WITH STROKE AND ACUTE",
      "b SMALL LETTER O WITH STROKE AND ACUTEb CAPITAL LETTER A WITH DOUBLE GRAVE",
      "b SMALL LETTER A WITH DOUBLE GRAVEb CAPITAL LETTER A WITH INVERTED BREVE",
      "b SMALL LETTER A WITH INVERTED BREVEb CAPITAL LETTER E WITH DOUBLE GRAVE",
      "b SMALL LETTER E WITH DOUBLE GRAVEb CAPITAL LETTER E WITH INVERTED BREVE",
      "b SMALL LETTER E WITH INVERTED BREVEb CAPITAL LETTER I WITH DOUBLE GRAVE",
      "b SMALL LETTER I WITH DOUBLE GRAVEb CAPITAL LETTER I WITH INVERTED BREVE",
      "b SMALL LETTER I WITH INVERTED BREVEb CAPITAL LETTER O WITH DOUBLE GRAVE",
      "b SMALL LETTER O WITH DOUBLE GRAVEb CAPITAL LETTER O WITH INVERTED BREVE",
      "b SMALL LETTER O WITH INVERTED BREVEb CAPITAL LETTER R WITH DOUBLE GRAVE",
      "b SMALL LETTER R WITH DOUBLE GRAVEb CAPITAL LETTER R WITH INVERTED BREVE",
      "b SMALL LETTER R WITH INVERTED BREVEb CAPITAL LETTER U WITH DOUBLE GRAVE",
      "b SMALL LETTER U WITH DOUBLE GRAVEb CAPITAL LETTER U WITH INVERTED BREVE",
      "b SMALL LETTER U WITH INVERTED BREVEb CAPITAL LETTER S WITH COMMA BELOW",
      "b SMALL LETTER S WITH COMMA BELOWb CAPITAL LETTER T WITH COMMA BELOW",
      "b SMALL LETTER T WITH COMMA BELOWb CAPITAL LETTER YOGHb SMALL LETTER YOGH",
      "b CAPITAL LETTER H WITH CARONb SMALL LETTER H WITH CARON",
      "b CAPITAL LETTER N WITH LONG RIGHT LEGb SMALL LETTER D WITH CURLb CAPITAL LETTER OU",
      "b SMALL LETTER OUb CAPITAL LETTER Z WITH HOOKb SMALL LETTER Z WITH HOOK",
      "b CAPITAL LETTER A WITH DOT ABOVEb SMALL LETTER A WITH DOT ABOVE",
      "b CAPITAL LETTER E WITH CEDILLAb SMALL LETTER E WITH CEDILLA",
      "b CAPITAL LETTER O WITH DIAERESIS AND MACRONb SMALL LETTER O WITH DIAERESIS AND MACRON",
      "b CAPITAL LETTER O WITH TILDE AND MACRONb SMALL LETTER O WITH TILDE AND MACRON",
      "b CAPITAL LETTER O WITH DOT ABOVEb SMALL LETTER O WITH DOT ABOVE",
      "b CAPITAL LETTER O WITH DOT ABOVE AND MACRONb SMALL LETTER O WITH DOT ABOVE AND MACRON",
      "b CAPITAL LETTER Y WITH MACRONb SMALL LETTER Y WITH MACRONd L WITH CURLd N WITH CURL",
      "d T WITH CURLd DOTLESS Jd DB DIGRAPHd QP DIGRAPHb CAPITAL LETTER A WITH STROKE",
      "d C WITH STROKEb SMALL LETTER C WITH STROKEb CAPITAL LETTER L WITH BAR",
      "d T WITH DIAGONAL STROKEb SMALL LETTER S WITH SWASH TAILd Z WITH SWASH TAIL",
      "b CAPITAL LETTER GLOTTAL STOPb SMALL LETTER GLOTTAL STOPb CAPITAL LETTER B WITH STROKE",
      "d U BARd TURNED Vd E WITH STROKEb SMALL LETTER E WITH STROKEb CAPITAL LETTER J WITH STROKE",
      "b SMALL LETTER J WITH STROKEb CAPITAL LETTER SMALL Q WITH HOOK TAIL",
      "b SMALL LETTER Q WITH HOOK TAILb CAPITAL LETTER R WITH STROKEb SMALL LETTER R WITH STROKE",
      "b CAPITAL LETTER Y WITH STROKEb SMALL LETTER Y WITH STROKEd TURNED Ad ALPHAd TURNED ALPHA",
      "d B WITH HOOKd OPEN Od C WITH CURLd D WITH TAILf HOOKd REVERSED Ed SCHWAe WITH HOOKd OPEN E",
      "d REVERSED OPEN Eg WITH HOOKd CLOSED REVERSED OPEN Ed DOTLESS J WITH STROKEd G WITH HOOK",
      "d SCRIPT Gb LETTER SMALL CAPITAL Gb SMALL LETTER GAMMAd RAMS HORNd TURNED Hd H WITH HOOK",
      "d HENG WITH HOOKd I WITH STROKEd IOTAb LETTER SMALL CAPITAL I",
      "b SMALL LETTER L WITH MIDDLE TILDEf BELTf RETROFLEX HOOKd LEZHd TURNED Mf WITH LONG LEG",
      "d M WITH HOOKd N WITH LEFT HOOKf RETROFLEX HOOKb LETTER SMALL CAPITAL N",
      "b SMALL LETTER BARRED Ob LETTER SMALL CAPITAL OEb SMALL LETTER CLOSED OMEGAd PHId TURNED R",
      "f WITH LONG LEGg HOOKd R WITH LONG LEGf TAILf FISHHOOKd REVERSED R WITH FISHHOOK",
      "b LETTER SMALL CAPITAL Re INVERTED Rb SMALL LETTER S WITH HOOKd ESH",
      "d DOTLESS J WITH STROKE AND HOOKd SQUAT REVERSED ESHd ESH WITH CURLd TURNED T",
      "d T WITH RETROFLEX HOOKd U BARd UPSILONd V WITH HOOKd TURNED Ve We Y",
      "b LETTER SMALL CAPITAL Yb SMALL LETTER Z WITH RETROFLEX HOOKf CURLd EZHe WITH CURL",
      "b LETTER GLOTTAL STOPc PHARYNGEAL VOICED FRICATIVEc INVERTED GLOTTAL STOPc STRETCHED C",
      "c BILABIAL CLICKc SMALL CAPITAL Bb SMALL LETTER CLOSED OPEN E",
      "b LETTER SMALL CAPITAL G WITH HOOKe Hb SMALL LETTER J WITH CROSSED-TAILd TURNED K",
      "b LETTER SMALL CAPITAL Lb SMALL LETTER Q WITH HOOKb LETTER GLOTTAL STOP WITH STROKE",
      "c REVERSED GLOTTAL STOP WITH STROKEb SMALL LETTER DZ DIGRAPHd DEZH DIGRAPH",
      "d DZ DIGRAPH WITH CURLd TS DIGRAPHd TESH DIGRAPHd TC DIGRAPH WITH CURLd FENG DIGRAPH",
      "d LS DIGRAPHd LZ DIGRAPHb LETTER BILABIAL PERCUSSIVEc BIDENTAL PERCUSSIVE",
      "b SMALL LETTER TURNED H WITH FISHHOOKh AND TAILaMODIFIER LETTER SMALL He WITH HOOKd Jd R",
      "d TURNED Rf WITH HOOKd CAPITAL INVERTED Rd Wd Yc PRIMEc DOUBLE PRIMEc TURNED COMMA",
      "c APOSTROPHEc REVERSED COMMAc RIGHT HALF RINGc LEFT HALF RINGc GLOTTAL STOP",
      "c REVERSED GLOTTAL STOPc LEFT ARROWHEADc RIGHT ARROWHEADc UP ARROWHEADc DOWN ARROWHEAD",
      "c CIRCUMFLEX ACCENTaCARONaMODIFIER LETTER VERTICAL LINEc MACRONc ACUTE ACCENTc GRAVE ACCENT",
      "c LOW VERTICAL LINEd MACRONd GRAVE ACCENTd ACUTE ACCENTc TRIANGULAR COLON",
      "c HALF TRIANGULAR COLONc CENTRED RIGHT HALF RINGd LEFT HALF RINGc UP TACKc DOWN TACK",
      "c PLUS SIGNc MINUS SIGNaBREVEaDOT ABOVEaRING ABOVEaOGONEKaSMALL TILDEaDOUBLE ACUTE ACCENT",
      "aMODIFIER LETTER RHOTIC HOOKc CROSS ACCENTc SMALL GAMMAd Ld Sd Xd REVERSED GLOTTAL STOP",
      "c EXTRA-HIGH TONE BARc HIGH TONE BARc MID TONE BARc LOW TONE BARc EXTRA-LOW TONE BAR",
      "c YIN DEPARTING TONE MARKc YANG DEPARTING TONE MARKc VOICINGc UNASPIRATED",
      "c DOUBLE APOSTROPHEc LOW DOWN ARROWHEADd UP ARROWHEADd LEFT ARROWHEADd RIGHT ARROWHEAD",
      "d RINGc MIDDLE GRAVE ACCENTd DOUBLE GRAVE ACCENTe ACUTE ACCENTc LOW TILDEc RAISED COLON",
      "c BEGIN HIGH TONEc END HIGH TONEc BEGIN LOW TONEc END LOW TONEc SHELFc OPEN SHELF",
      "c LOW LEFT ARROWaCOMBINING GRAVE ACCENTb ACUTE ACCENTb CIRCUMFLEX ACCENTb TILDEb MACRON",
      "b OVERLINEb BREVEb DOT ABOVEb DIAERESISb HOOK ABOVEb RING ABOVEb DOUBLE ACUTE ACCENTb CARON",
      "b VERTICAL LINE ABOVEb DOUBLE VERTICAL LINE ABOVEc GRAVE ACCENTb CANDRABINDU",
      "b INVERTED BREVEb TURNED COMMA ABOVEb COMMA ABOVEb REVERSED COMMA ABOVEb COMMA ABOVE RIGHT",
      "b GRAVE ACCENT BELOWb ACUTE ACCENT BELOWb LEFT TACK BELOWb RIGHT TACK BELOW",
      "b LEFT ANGLE ABOVEb HORNb LEFT HALF RING BELOWb UP TACK BELOWb DOWN TACK BELOW",
      "b PLUS SIGN BELOWb MINUS SIGN BELOWb PALATALIZED HOOK BELOWb RETROFLEX HOOK BELOW",
      "b DOT BELOWb DIAERESIS BELOWb RING BELOWb COMMA BELOWb CEDILLAb OGONEKb VERTICAL LINE BELOW",
      "b BRIDGE BELOWb INVERTED DOUBLE ARCH BELOWb CARON BELOWb CIRCUMFLEX ACCENT BELOW",
      "b BREVE BELOWb INVERTED BREVE BELOWb TILDE BELOWb MACRON BELOWb LOW LINEb DOUBLE LOW LINE",
      "b TILDE OVERLAYb SHORT STROKE OVERLAYb LONG STROKE OVERLAYb SHORT SOLIDUS OVERLAY",
      "b LONG SOLIDUS OVERLAYb RIGHT HALF RING BELOWb INVERTED BRIDGE BELOWb SQUARE BELOW",
      "b SEAGULL BELOWb X ABOVEb VERTICAL TILDEb DOUBLE OVERLINEb GRAVE TONE MARKb ACUTE TONE MARK",
      "b GREEK PERISPOMENIc KORONISc DIALYTIKA TONOSc YPOGEGRAMMENIb BRIDGE ABOVE",
      "b EQUALS SIGN BELOWb DOUBLE VERTICAL LINE BELOWb LEFT ANGLE BELOWb NOT TILDE ABOVE",
      "b HOMOTHETIC ABOVEb ALMOST EQUAL TO ABOVEb LEFT RIGHT ARROW BELOWb UPWARDS ARROW BELOW",
      "b GRAPHEME JOINERb RIGHT ARROWHEAD ABOVEb LEFT HALF RING ABOVEb FERMATAb X BELOW",
      "b LEFT ARROWHEAD BELOWb RIGHT ARROWHEAD BELOWd AND UP ARROWHEAD BELOWc HALF RING ABOVE",
      "b DOT ABOVE RIGHTb ASTERISK BELOWb DOUBLE RING BELOWb ZIGZAG ABOVEb DOUBLE BREVE BELOWd",
      "c MACRONd BELOWc TILDEc INVERTED BREVEc RIGHTWARDS ARROW BELOWb LATIN SMALL LETTER Ae Ee I",
      "e Oe Ue Ce De He Me Re Te Ve XaGREEK CAPITAL LETTER HETAb SMALL LETTER HETA",
      "b CAPITAL LETTER ARCHAIC SAMPIb SMALL LETTER ARCHAIC SAMPIb NUMERAL SIGN",
      "b LOWER NUMERAL SIGNb CAPITAL LETTER PAMPHYLIAN DIGAMMAb SMALL LETTER PAMPHYLIAN DIGAMMA"]⟩,
    ⟨0x37A, ["aGREEK YPOGEGRAMMENIb SMALL REVERSED LUNATE SIGMA SYMBOLc DOTTED LUNATE SIGMA SYMBOL",
      "c REVERSED DOTTED LUNATE SIGMA SYMBOLb QUESTION MARKb CAPITAL LETTER YOT"]⟩,
    ⟨0x384, ["aGREEK TONOSb DIALYTIKA TONOSb CAPITAL LETTER ALPHA WITH TONOSb ANO TELEIA",
      "b CAPITAL LETTER EPSILON WITH TONOSd ETA WITH TONOSd IOTA WITH TONOS"]⟩,
    ⟨0x38C, ["aGREEK CAPITAL LETTER OMICRON WITH TONOS"]⟩,
    ⟨0x38E, ["aGREEK CAPITAL LETTER UPSILON WITH TONOSd OMEGA WITH TONOS",
      "b SMALL LETTER IOTA WITH DIALYTIKA AND TONOSb CAPITAL LETTER ALPHAd BETAd GAMMAd DELTA",
      "d EPSILONd ZETAd ETAd THETAd IOTAd KAPPAd LAMDAd MUd NUd XId OMICRONd PId RHO"]⟩,
    ⟨0x3A3, ["aGREEK CAPITAL LETTER SIGMAd TAUd UPSILONd PHId CHId PSId OMEGAd IOTA WITH DIALYTIKA",
      "d UPSILON WITH DIALYTIKAb SMALL LETTER ALPHA WITH TONOSd EPSILON WITH TONOSd ETA WITH TONOS",
      "d IOTA WITH TONOSd UPSILON WITH DIALYTIKA AND TONOSd ALPHAd BETAd GAMMAd DELTAd EPSILON",
      "d ZETAd ETAd THETAd IOTAd KAPPAd LAMDAd MUd NUd XId OMICRONd PId RHOd FINAL SIGMAd SIGMA",
      "d TAUd UPSILONd PHId CHId PSId OMEGAd IOTA WITH DIALYTIKAd UPSILON WITH DIALYTIKA",
      "d OMICRON WITH TONOSd UPSILON WITH TONOSd OMEGA WITH TONOSb CAPITAL KAI SYMBOLb BETA SYMBOL",
      "b THETA SYMBOLb UPSILON WITH HOOK SYMBOLd ACUTE AND HOOK SYMBOLd DIAERESIS AND HOOK SYMBOL",
      "b PHI SYMBOLb PI SYMBOLb KAI SYMBOLb LETTER ARCHAIC KOPPAb SMALL LETTER ARCHAIC KOPPA",
      "b LETTER STIGMAb SMALL LETTER STIGMAb LETTER DIGAMMAb SMALL LETTER DIGAMMAb LETTER KOPPA",
      "b SMALL LETTER KOPPAb LETTER SAMPIb SMALL LETTER SAMPIaCOPTIC CAPITAL LETTER SHEI",
      "b SMALL LETTER SHEIb CAPITAL LETTER FEIb SMALL LETTER FEIb CAPITAL LETTER KHEI",
      "b SMALL LETTER KHEIb CAPITAL LETTER HORIb SMALL LETTER HORIb CAPITAL LETTER GANGIA",
      "b SMALL LETTER GANGIAb CAPITAL LETTER SHIMAb SMALL LETTER SHIMAb CAPITAL LETTER DEI",
      "b SMALL LETTER DEIaGREEK KAPPA SYMBOLb RHO SYMBOLb LUNATE SIGMA SYMBOLb LETTER YOT",
      "b CAPITAL THETA SYMBOLb LUNATE EPSILON SYMBOLb REVERSED LUNATE EPSILON SYMBOL",
      "b CAPITAL LETTER SHOb SMALL LETTER SHOb CAPITAL LUNATE SIGMA SYMBOLc LETTER SAN",
      "b SMALL LETTER SANb RHO WITH STROKE SYMBOLb CAPITAL REVERSED LUNATE SIGMA SYMBOL",
      "c DOTTED LUNATE SIGMA SYMBOLc REVERSED DOTTED LUNATE SIGMA SYMBOL",
      "aCYRILLIC CAPITAL LETTER IE WITH GRAVEd IOd DJEd GJEd UKRAINIAN IEd DZE",
      "d BYELORUSSIAN-UKRAINIAN Id YId JEd LJEd NJEd TSHEd KJEd I WITH GRAVEd SHORT Ud DZHEd Ad BE",
      "d VEd GHEd DEd IEd ZHEd ZEd Id SHORT Id KAd ELd EMd ENd Od PEd ERd ESd TEd Ud EFd HAd TSE",
      "d CHEd SHAd SHCHAd HARD SIGNd YERUd SOFT SIGNd Ed YUd YAb SMALL LETTER Ad BEd VEd GHEd DE",
      "d IEd ZHEd ZEd Id SHORT Id KAd ELd EMd ENd Od PEd ERd ESd TEd Ud EFd HAd TSEd CHEd SHA",
      "d SHCHAd HARD SIGNd YERUd SOFT SIGNd Ed YUd YAd IE WITH GRAVEd IOd DJEd GJEd UKRAINIAN IE",
      "d DZEd BYELORUSSIAN-UKRAINIAN Id YId JEd LJEd NJEd TSHEd KJEd I WITH GRAVEd SHORT Ud DZHE",
      "b CAPITAL LETTER OMEGAb SMALL LETTER OMEGAb CAPITAL LETTER YATb SMALL LETTER YAT",
      "b CAPITAL LETTER IOTIFIED Eb SMALL LETTER IOTIFIED Eb CAPITAL LETTER LITTLE YUS",
      "b SMALL LETTER LITTLE YUSb CAPITAL LETTER IOTIFIED LITTLE YUS",
      "b SMALL LETTER IOTIFIED LITTLE YUSb CAPITAL LETTER BIG YUSb SMALL LETTER BIG YUS",
      "b CAPITAL LETTER IOTIFIED BIG YUSb SMALL LETTER IOTIFIED BIG YUSb CAPITAL LETTER KSI",
      "b SMALL LETTER KSIb CAPITAL LETTER PSIb SMALL LETTER PSIb CAPITAL LETTER FITA",
      "b SMALL LETTER FITAb CAPITAL LETTER IZHITSAb SMALL LETTER IZHITSA",
      "b CAPITAL LETTER IZHITSA WITH DOUBLE GRAVE ACCENT",
      "b SMALL LETTER IZHITSA WITH DOUBLE GRAVE ACCENTb CAPITAL LETTER UKb SMALL LETTER UK",
      "b CAPITAL LETTER ROUND OMEGAb SMALL LETTER ROUND OMEGAb CAPITAL LETTER OMEGA WITH TITLO",
      "b SMALL LETTER OMEGA WITH TITLOb CAPITAL LETTER OTb SMALL LETTER OTb CAPITAL LETTER KOPPA",
      "b SMALL LETTER KOPPAb THOUSANDS SIGNaCOMBINING CYRILLIC TITLOc PALATALIZATION",
      "c DASIA PNEUMATAc PSILI PNEUMATAc POKRYTIEc HUNDRED THOUSANDS SIGNc MILLIONS SIGN",
      "aCYRILLIC CAPITAL LETTER SHORT I WITH TAILb SMALL LETTER SHORT I WITH TAIL",
      "b CAPITAL LETTER SEMISOFT SIGNb SMALL LETTER SEMISOFT SIGNb CAPITAL LETTER ER WITH TICK",
      "b SMALL LETTER ER WITH TICKb CAPITAL LETTER GHE WITH UPTURNb SMALL LETTER GHE WITH UPTURN",
      "b CAPITAL LETTER GHE WITH STROKEb SMALL LETTER GHE WITH STROKE",
      "b CAPITAL LETTER GHE WITH MIDDLE HOOKb SMALL LETTER GHE WITH MIDDLE HOOK",
      "b CAPITAL LETTER ZHE WITH DESCENDERb SMALL LETTER ZHE WITH DESCENDER",
      "b CAPITAL LETTER ZE WITH DESCENDERb SMALL LETTER ZE WITH DESCENDER",
      "b CAPITAL LETTER KA WITH DESCENDERb SMALL LETTER KA WITH DESCENDER",
      "b CAPITAL LETTER KA WITH VERTICAL STROKEb SMALL LETTER KA WITH VERTICAL STROKE",
      "b CAPITAL LETTER KA WITH STROKEb SMALL LETTER KA WITH STROKEb CAPITAL LETTER BASHKIR KA",
      "b SMALL LETTER BASHKIR KAb CAPITAL LETTER EN WITH DESCENDERb SMALL LETTER EN WITH DESCENDER",
      "b CAPITAL LIGATURE EN GHEb SMALL LIGATURE EN GHEb CAPITAL LETTER PE WITH MIDDLE HOOK",
      "b SMALL LETTER PE WITH MIDDLE HOOKb CAPITAL LETTER ABKHASIAN HAb SMALL LETTER ABKHASIAN HA",
      "b CAPITAL LETTER ES WITH DESCENDERb SMALL LETTER ES WITH DESCENDER",
      "b CAPITAL LETTER TE WITH DESCENDERb SMALL LETTER TE WITH DESCENDER",
      "b CAPITAL LETTER STRAIGHT Ub SMALL LETTER STRAIGHT Ub CAPITAL LETTER STRAIGHT U WITH STROKE",
      "b SMALL LETTER STRAIGHT U WITH STROKEb CAPITAL LETTER HA WITH DESCENDER",
      "b SMALL LETTER HA WITH DESCENDERb CAPITAL LIGATURE TE TSEb SMALL LIGATURE TE TSE",
      "b CAPITAL LETTER CHE WITH DESCENDERb SMALL LETTER CHE WITH DESCENDER",
      "b CAPITAL LETTER CHE WITH VERTICAL STROKEb SMALL LETTER CHE WITH VERTICAL STROKE",
      "b CAPITAL LETTER SHHAb SMALL LETTER SHHAb CAPITAL LETTER ABKHASIAN CHE",
      "b SMALL LETTER ABKHASIAN CHEb CAPITAL LETTER ABKHASIAN CHE WITH DESCENDER",
      "b SMALL LETTER ABKHASIAN CHE WITH DESCENDERb LETTER PALOCHKAb CAPITAL LETTER ZHE WITH BREVE",
      "b SMALL LETTER ZHE WITH BREVEb CAPITAL LETTER KA WITH HOOKb SMALL LETTER KA WITH HOOK",
      "b CAPITAL LETTER EL WITH TAILb SMALL LETTER EL WITH TAILb CAPITAL LETTER EN WITH HOOK",
      "b SMALL LETTER EN WITH HOOKb CAPITAL LETTER EN WITH TAILb SMALL LETTER EN WITH TAIL",
      "b CAPITAL LETTER KHAKASSIAN CHEb SMALL LETTER KHAKASSIAN CHEb CAPITAL LETTER EM WITH TAIL",
      "b SMALL LETTER EM WITH TAILd PALOCHKAb CAPITAL LETTER A WITH BREVE",
      "b SMALL LETTER A WITH BREVEb CAPITAL LETTER A WITH DIAERESISb SMALL LETTER A WITH DIAERESIS",
      "b CAPITAL LIGATURE A IEb SMALL LIGATURE A IEb CAPITAL LETTER IE WITH BREVE",
      "b SMALL LETTER IE WITH BREVEb CAPITAL LETTER SCHWAb SMALL LETTER SCHWA",
      "b CAPITAL LETTER SCHWA WITH DIAERESISb SMALL LETTER SCHWA WITH DIAERESIS",
      "b CAPITAL LETTER ZHE WITH DIAERESISb SMALL LETTER ZHE WITH DIAERESIS",
      "b CAPITAL LETTER ZE WITH DIAERESISb SMALL LETTER ZE WITH DIAERESIS",
      "b CAPITAL LETTER ABKHASIAN DZEb SMALL LETTER ABKHASIAN DZEb CAPITAL LETTER I WITH MACRON",
      "b SMALL LETTER I WITH MACRONb CAPITAL LETTER I WITH DIAERESIS",
      "b SMALL LETTER I WITH DIAERESISb CAPITAL LETTER O WITH DIAERESIS",
      "b SMALL LETTER O WITH DIAERESISb CAPITAL LETTER BARRED Ob SMALL LETTER BARRED O",
      "b CAPITAL LETTER BARRED O WITH DIAERESISb SMALL LETTER BARRED O WITH DIAERESIS",
      "b CAPITAL LETTER E WITH DIAERESISb SMALL LETTER E WITH DIAERESIS",
      "b CAPITAL LETTER U WITH MACRONb SMALL LETTER U WITH MACRONb CAPITAL LETTER U WITH DIAERESIS",
      "b SMALL LETTER U WITH DIAERESISb CAPITAL LETTER U WITH DOUBLE ACUTE",
      "b SMALL LETTER U WITH DOUBLE ACUTEb CAPITAL LETTER CHE WITH DIAERESIS",
      "b SMALL LETTER CHE WITH DIAERESISb CAPITAL LETTER GHE WITH DESCENDER",
      "b SMALL LETTER GHE WITH DESCENDERb CAPITAL LETTER YERU WITH DIAERESIS",
      "b SMALL LETTER YERU WITH DIAERESISb CAPITAL LETTER GHE WITH STROKE AND HOOK",
      "b SMALL LETTER GHE WITH STROKE AND HOOKb CAPITAL LETTER HA WITH HOOK",
      "b SMALL LETTER HA WITH HOOKb CAPITAL LETTER HA WITH STROKEb SMALL LETTER HA WITH STROKE",
      "b CAPITAL LETTER KOMI DEb SMALL LETTER KOMI DEb CAPITAL LETTER KOMI DJE",
      "b SMALL LETTER KOMI DJEb CAPITAL LETTER KOMI ZJEb SMALL LETTER KOMI ZJE",
      "b CAPITAL LETTER KOMI DZJEb SMALL LETTER KOMI DZJEb CAPITAL LETTER KOMI LJE",
      "b SMALL LETTER KOMI LJEb CAPITAL LETTER KOMI NJEb SMALL LETTER KOMI NJE",
      "b CAPITAL LETTER KOMI SJEb SMALL LETTER KOMI SJEb CAPITAL LETTER KOMI TJE",
      "b SMALL LETTER KOMI TJEb CAPITAL LETTER REVERSED ZEb SMALL LETTER REVERSED ZE",
      "b CAPITAL LETTER EL WITH HOOKb SMALL LETTER EL WITH HOOKb CAPITAL LETTER LHA",
      "b SMALL LETTER LHAb CAPITAL LETTER RHAb SMALL LETTER RHAb CAPITAL LETTER YAE",
      "b SMALL LETTER YAEb CAPITAL LETTER QAb SMALL LETTER QAb CAPITAL LETTER WEb SMALL LETTER WE",
      "b CAPITAL LETTER ALEUT KAb SMALL LETTER ALEUT KAb CAPITAL LETTER EL WITH MIDDLE HOOK",
      "b SMALL LETTER EL WITH MIDDLE HOOKb CAPITAL LETTER EN WITH MIDDLE HOOK",
      "b SMALL LETTER EN WITH MIDDLE HOOKb CAPITAL LETTER PE WITH DESCENDER",
      "b SMALL LETTER PE WITH DESCENDERb CAPITAL LETTER SHHA WITH DESCENDER",
      "b SMALL LETTER SHHA WITH DESCENDERb CAPITAL LETTER EN WITH LEFT HOOK",
      "b SMALL LETTER EN WITH LEFT HOOKb CAPITAL LETTER DZZHEb SMALL LETTER DZZHE",
      "b CAPITAL LETTER DCHEb SMALL LETTER DCHEb CAPITAL LETTER EL WITH DESCENDER",
      "b SMALL LETTER EL WITH DESCENDER"]⟩,
    ⟨0x531, ["aARMENIAN CAPITAL LETTER AYBd BENd GIMd DAd ECHd ZAd EHd ETd TOd ZHEd INId LIWNd XEH",
      "d CAd KENd HOd JAd GHADd CHEHd MENd YId NOWd SHAd VOd CHAd PEHd JHEHd RAd SEHd VEWd TIWN",
      "d REHd COd YIWNd PIWRd KEHd OHd FEH"]⟩,
    ⟨0x559, ["aARMENIAN MODIFIER LETTER LEFT HALF RINGb APOSTROPHEb EMPHASIS MARK",
      "b EXCLAMATION MARKb COMMAb QUESTION MARKb ABBREVIATION MARKb SMALL LETTER TURNED AYBd AYB",
      "d BENd GIMd DAd ECHd ZAd EHd ETd TOd ZHEd INId LIWNd XEHd CAd KENd HOd JAd GHADd CHEHd MEN",
      "d YId NOWd SHAd VOd CHAd PEHd JHEHd RAd SEHd VEWd TIWNd REHd COd YIWNd PIWRd KEHd OHd FEH",
      "c LIGATURE ECH YIWNc LETTER YI WITH STROKEb FULL STOPb HYPHEN"]⟩,
    ⟨0x58D, ["aRIGHT-FACING ARMENIAN ETERNITY SIGNaLEFT-FACING ARMENIAN ETERNITY SIGN",
      "aARMENIAN DRAM SIGN"]⟩,
    ⟨0x591, ["aHEBREW ACCENT ETNAHTAc SEGOLc SHALSHELETc ZAQEF QATANd GADOLc TIPEHAc REVIAc ZARQA",
      "c PASHTAc YETIVc TEVIRc GERESHd MUQDAMc GERSHAYIMc QARNEY PARAc TELISHA GEDOLAc PAZER",
      "c ATNAH HAFUKHc MUNAHc MAHAPAKHc MERKHAd KEFULAc DARGAc QADMAc TELISHA QETANA",
      "c YERAH BEN YOMOc OLEc ILUYc DEHIc ZINORb MARK MASORA CIRCLEb POINT SHEVAc HATAF SEGOL",
      "d PATAHd QAMATSc HIRIQc TSEREc SEGOLc PATAHc QAMATSc HOLAMd HASER FOR VAVc QUBUTS",
      "c DAGESH OR MAPIQc METEGb PUNCTUATION MAQAFb POINT RAFEb PUNCTUATION PASEQb POINT SHIN DOT",
      "c SIN DOTb PUNCTUATION SOF PASUQb MARK UPPER DOTc LOWER DOTb PUNCTUATION NUN HAFUKHA",
      "b POINT QAMATS QATAN"]⟩,
    ⟨0x5D0, ["aHEBREW LETTER ALEFc BETc GIMELc DALETc HEc VAVc ZAYINc HETc TETc YODc FINAL KAF",
      "c KAFc LAMEDc FINAL MEMc MEMc FINAL NUNc NUNc SAMEKHc AYINc FINAL PEc PEc FINAL TSADI",
      "c TSADIc QOFc RESHc SHINc TAV"]⟩,
    ⟨0x5EF, ["aHEBREW YOD TRIANGLEb LIGATURE YIDDISH DOUBLE VAVd VAV YODd DOUBLE YOD",
      "b PUNCTUATION GERESHc GERSHAYIM"]⟩,
    ⟨0x600, ["aARABIC NUMBER SIGNb SIGN SANAHb FOOTNOTE MARKERb SIGN SAFHAc SAMVAT",
      "b NUMBER MARK ABOVEb-INDIC CUBE ROOTc FOURTH ROOTb RAYb-INDIC PER MILLE SIGN",
      "d TEN THOUSAND SIGNaAFGHANI SIGNaARABIC COMMAb DATE SEPARATORb POETIC VERSE SIGN",
      "b SIGN MISRAc SALLALLAHOU ALAYHE WASSALLAMc ALAYHE ASSALLAMc RAHMATULLAH ALAYHE",
      "c RADI ALLAHOU ANHUc TAKHALLUSb SMALL HIGH TAHd LIGATURE ALEF WITH LAM WITH YEHd ZAIN",
      "c FATHAc DAMMAc KASRAb SEMICOLONb LETTER MARKb END OF TEXT MARK",
      "b TRIPLE DOT PUNCTUATION MARKb QUESTION MARKb LETTER KASHMIRI YEHc HAMZA",
      "c ALEF WITH MADDA ABOVEe HAMZA ABOVEc WAW WITH HAMZA ABOVEc ALEF WITH HAMZA BELOW",
      "c YEH WITH HAMZA ABOVEc ALEFc BEHc TEH MARBUTAdc THEHc JEEMc HAHc KHAHc DALc THALc REH",
      "c ZAINc SEENc SHEENc SADc DADc TAHc ZAHc AINc GHAINc KEHEH WITH TWO DOTS ABOVE",
      "e THREE DOTS BELOWc FARSI YEH WITH INVERTED Vf TWO DOTS ABOVEf THREE DOTS ABOVEb TATWEEL",
      "b LETTER FEHc QAFc KAFc LAMc MEEMc NOONc HEHc WAWc ALEF MAKSURAc YEHb FATHATANb DAMMATAN",
      "b KASRATANb FATHAb DAMMAb KASRAb SHADDAb SUKUNb MADDAH ABOVEb HAMZA ABOVEc BELOW",
      "b SUBSCRIPT ALEFb INVERTED DAMMAb MARK NOON GHUNNAb ZWARAKAYb VOWEL SIGN SMALL V ABOVE",
      "d INVERTED SMALL V ABOVEd DOT BELOWb REVERSED DAMMAb FATHA WITH TWO DOTSb WAVY HAMZA BELOW",
      "b-INDIC DIGIT ZEROd ONEd TWOd THREEd FOURd FIVEd SIXd SEVENd EIGHTd NINEb PERCENT SIGN",
      "b DECIMAL SEPARATORb THOUSANDS SEPARATORb FIVE POINTED STARb LETTER DOTLESS BEHd QAF",
      "c SUPERSCRIPT ALEFc ALEF WASLAd WITH WAVY HAMZA ABOVEg BELOWc HIGH HAMZAe ALEFe WAW",
      "c U WITH HAMZA ABOVEc HIGH HAMZA YEHc TTEHc TTEHEHc BEEHc TEH WITH RING",
      "e THREE DOTS ABOVE DOWNWARDSc PEHc TEHEHc BEHEHc HAH WITH HAMZA ABOVE",
      "e TWO DOTS VERTICAL ABOVEc NYEHc DYEHc HAH WITH THREE DOTS ABOVEc TCHEHc TCHEHEHc DDAL",
      "c DAL WITH RINGe DOT BELOWg AND SMALL TAHc DAHALc DDAHALc DUL",
      "c DAL WITH THREE DOTS ABOVE DOWNWARDSe FOUR DOTS ABOVEc RREHc REH WITH SMALL Ve RING",
      "e DOT BELOWe SMALL V BELOWe DOT BELOW AND DOT ABOVEe TWO DOTS ABOVEc JEH",
      "c REH WITH FOUR DOTS ABOVEc SEEN WITH DOT BELOW AND DOT ABOVEe THREE DOTS BELOW",
      "h AND THREE DOTS ABOVEc SAD WITH TWO DOTS BELOWe THREE DOTS ABOVE",
      "c TAH WITH THREE DOTS ABOVEc AIN WITH THREE DOTS ABOVEc DOTLESS FEH",
      "c FEH WITH DOT MOVED BELOWf BELOWc VEHc FEH WITH THREE DOTS BELOWc PEHEH",
      "c QAF WITH DOT ABOVEe THREE DOTS ABOVEc KEHEHc SWASH KAFc KAF WITH RINGe DOT ABOVEc NG",
      "c KAF WITH THREE DOTS BELOWc GAFd WITH RINGc NGOEHc GAF WITH TWO DOTS BELOWc GUEH",
      "c GAF WITH THREE DOTS ABOVEc LAM WITH SMALL Ve DOT ABOVEe THREE DOTS ABOVEg BELOW",
      "c NOON WITH DOT BELOWd GHUNNAc RNOONc NOON WITH RINGe THREE DOTS ABOVEc HEH DOACHASHMEE",
      "c TCHEH WITH DOT ABOVEc HEH WITH YEH ABOVEd GOALe WITH HAMZA ABOVEc TEH MARBUTA GOAL",
      "c WAW WITH RINGc KIRGHIZ OEc OEc Uc YUc KIRGHIZ YUc WAW WITH TWO DOTS ABOVEc VEc FARSI YEH",
      "c YEH WITH TAILe SMALL Vc WAW WITH DOT ABOVEc Ec YEH WITH THREE DOTS BELOWd BARREE",
      "e WITH HAMZA ABOVEb FULL STOPb LETTER AE",
      "b SMALL HIGH LIGATURE SAD WITH LAM WITH ALEF MAKSURAe QAF WITH LAM WITH ALEF MAKSURA",
      "d MEEM INITIAL FORMd LAM ALEFd JEEMd THREE DOTSd SEENb END OF AYAHb START OF RUB EL HIZB",
      "b SMALL HIGH ROUNDED ZEROd UPRIGHT RECTANGULAR ZEROd DOTLESS HEAD OF KHAH",
      "d MEEM ISOLATED FORMc LOW SEENc HIGH MADDAc WAWc YEHc HIGH YEHd NOONb PLACE OF SAJDAH",
      "b EMPTY CENTRE LOW STOPd HIGH STOPb ROUNDED HIGH STOP WITH FILLED CENTREb SMALL LOW MEEM",
      "b LETTER DAL WITH INVERTED Vc REH WITH INVERTED VaEXTENDED ARABIC-INDIC DIGIT ZEROe ONE",
      "e TWOe THREEe FOURe FIVEe SIXe SEVENe EIGHTe NINEaARABIC LETTER SHEEN WITH DOT BELOW",
      "c DAD WITH DOT BELOWc GHAIN WITH DOT BELOWb SIGN SINDHI AMPERSANDd POSTPOSITION MEN",
      "b LETTER HEH WITH INVERTED VaSYRIAC END OF PARAGRAPHb SUPRALINEAR FULL STOP",
      "b SUBLINEAR FULL STOPb SUPRALINEAR COLONb SUBLINEAR COLONb HORIZONTAL COLON",
      "b COLON SKEWED LEFTd RIGHTb SUPRALINEAR COLON SKEWED LEFTb SUBLINEAR COLON SKEWED RIGHT",
      "b CONTRACTIONb HARKLEAN OBELUSc METOBELUSc ASTERISCUS"]⟩,
    ⟨0x70F, ["aSYRIAC ABBREVIATION MARKb LETTER ALAPHc SUPERSCRIPT ALAPHc BETHc GAMALd GARSHUNI",
      "c DALATHc DOTLESS DALATH RISHc HEc WAWc ZAINc HETHc TETHd GARSHUNIc YUDHd HEc KAPHc LAMADH",
      "c MIMc NUNc SEMKATHc FINAL SEMKATHc Ec PEc REVERSED PEc SADHEc QAPHc RISHc SHINc TAW",
      "c PERSIAN BHETHd GHAMALd DHALATHb PTHAHA ABOVEc BELOWc DOTTEDb ZQAPHA ABOVEc BELOWc DOTTED",
      "b RBASA ABOVEc BELOWb DOTTED ZLAMA HORIZONTALd ANGULARb HBASA ABOVEc BELOWc-ESASA DOTTED",
      "b ESASA ABOVEc BELOWb RWAHAb FEMININE DOTb QUSHSHAYAb RUKKAKHAb TWO VERTICAL DOTS ABOVE",
      "e BELOWb THREE DOTS ABOVEd BELOWb OBLIQUE LINE ABOVEd BELOWb MUSICb BARREKH"]⟩,
    ⟨0x74D, ["aSYRIAC LETTER SOGDIAN ZHAINd KHAPHd FE",
      "aARABIC LETTER BEH WITH THREE DOTS HORIZONTALLY BELOWe DOT BELOW AND THREE DOTS ABOVE",
      "e THREE DOTS POINTING UPWARDS BELOWj AND TWO DOTS ABOVEe TWO DOTS BELOW AND DOT ABOVE",
      "e INVERTED SMALL V BELOWe SMALL Vc HAH WITH TWO DOTS ABOVE",
      "e THREE DOTS POINTING UPWARDS BELOWc DAL WITH TWO DOTS VERTICALLY BELOW AND SMALL TAH",
      "e INVERTED SMALL V BELOWc REH WITH STROKEc SEEN WITH FOUR DOTS ABOVE",
      "c AIN WITH TWO DOTS ABOVEe THREE DOTS POINTING DOWNWARDS ABOVEe TWO DOTS VERTICALLY ABOVE",
      "c FEH WITH TWO DOTS BELOWe THREE DOTS POINTING UPWARDS BELOWc KEHEH WITH DOT ABOVE",
      "e THREE DOTS ABOVEg POINTING UPWARDS BELOWc MEEM WITH DOT ABOVEf BELOW",
      "c NOON WITH TWO DOTS BELOWe SMALL TAHf Vc LAM WITH BARc REH WITH TWO DOTS VERTICALLY ABOVE",
      "e HAMZA ABOVEc SEEN WITH TWO DOTS VERTICALLY ABOVEc HAH WITH SMALL ARABIC LETTER TAH BELOW",
      "i AND TWO DOTSc SEEN WITH SMALL ARABIC LETTER TAH AND TWO DOTS",
      "c REH WITH SMALL ARABIC LETTER TAH AND TWO DOTSc HAH WITH SMALL ARABIC LETTER TAH ABOVE",
      "c ALEF WITH EXTENDED ARABIC-INDIC DIGIT TWO ABOVEi THREE ABOVE",
      "c FARSI YEH WITH EXTENDED ARABIC-INDIC DIGIT TWO ABOVEj THREE ABOVEj FOUR BELOW",
      "c WAW WITH EXTENDED ARABIC-INDIC DIGIT TWO ABOVEi THREE ABOVE",
      "c YEH BARREE WITH EXTENDED ARABIC-INDIC DIGIT TWO ABOVEj THREE ABOVE",
      "c HAH WITH EXTENDED ARABIC-INDIC DIGIT FOUR BELOW",
      "c SEEN WITH EXTENDED ARABIC-INDIC DIGIT FOUR ABOVEe INVERTED Vc KAF WITH TWO DOTS ABOVE",
      "aTHAANA LETTER HAAc SHAVIYANIc NOONUc RAAc BAAc LHAVIYANIc KAAFUc ALIFUc VAAVUc MEEMU",
      "c FAAFUc DHAALUc THAAc LAAMUc GAAFUc GNAVIYANIc SEENUc DAVIYANIc ZAVIYANIc TAVIYANIc YAA",
      "c PAVIYANIc JAVIYANIc CHAVIYANIc TTAAc HHAAc KHAAc THAALUc ZAAc SHEENUc SAADHUc DAADHUc TO",
      "c ZOc AINUc GHAINUc QAAFUc WAAVUb ABAFILIb AABAAFILIb IBIFILIb EEBEEFILIb UBUFILI",
      "b OOBOOFILIb EBEFILIb EYBEYFILIb OBOFILIb OABOAFILIb SUKUNb LETTER NAA"]⟩,
    ⟨0x7C0, ["aNKO DIGIT ZEROc ONEc TWOc THREEc FOURc FIVEc SIXc SEVENc EIGHTc NINEb LETTER Ac EE",
      "c Ic Ec Uc OOc Oc DAGBASINNAc Nc BAc PAc TAc JAc CHAc DAc RAc RRAc SAc GBAc FAc KAc LA",
      "c NA WOLOSOc MAc NYAc NAc HAc WAc YAc NYA WOLOSOc JONA JAd CHAd RA",
      "b COMBINING SHORT HIGH TONEd LOW TONEd RISING TONEc LONG DESCENDING TONEd HIGH TONE",
      "d LOW TONEd RISING TONEc NASALIZATION MARKc DOUBLE DOT ABOVEb HIGH TONE APOSTROPHE",
      "b LOW TONE APOSTROPHEb SYMBOL OO DENNENc GBAKURUNENb COMMAb EXCLAMATION MARKb LAJANYALAN"]⟩,
    ⟨0x7FD, ["aNKO DANTAYALANb DOROME SIGNb TAMAN SIGNaSAMARITAN LETTER ALAFc BITc GAMANc DALAT",
      "c IYc BAAc ZENc ITc TITc YUTc KAAFc LABATc MIMc NUNc SINGAATc INc FIc TSAADIYc QUFc RISH",
      "c SHANc TAAFb MARK INd-ALAFc OCCLUSIONc DAGESHb MODIFIER LETTER EPENTHETIC YUT",
      "b MARK EPENTHETIC YUTb VOWEL SIGN LONG Ed Ed OVERLONG AAd LONG AAd AAd OVERLONG Ad LONG A",
      "d Ab MODIFIER LETTER SHORT Ab VOWEL SIGN SHORT Ad LONG Ud Ub MODIFIER LETTER I",
      "b VOWEL SIGN LONG Id Id Od SUKUNb MARK NEQUDAA"]⟩,
    ⟨0x830, ["aSAMARITAN PUNCTUATION NEQUDAAc AFSAAQc ANGEDc BAUc ATMAAUc SHIYYAALAA",
      "b ABBREVIATION MARKb PUNCTUATION MELODIC QITSAc ZIQAAc QITSAc ZAEFc TURUc ARKAANU",
      "c SOF MASHFAATc ANNAAU"]⟩,
    ⟨0x840, ["aMANDAIC LETTER HALQAc ABc AGc ADc AHc USHENNAc AZc ITc ATTc AKSAc AKc ALc AMc AN",
      "c ASc INc APc ASZc AQc ARc ASHc ATc DUSHENNAc KADc AINb AFFRICATION MARKb VOCALIZATION MARK",
      "b GEMINATION MARK"]⟩,
    ⟨0x85E, ["aMANDAIC PUNCTUATION"]⟩,
    ⟨0x860, ["aSYRIAC LETTER MALAYALAM NGAd JAd NYAd TTAd NNAd NNNAd BHAd RAd LLAd LLLAd SSA"]⟩,
    ⟨0x870, ["aARABIC LETTER ALEF WITH ATTACHED FATHAf TOP RIGHT FATHAe RIGHT MIDDLE STROKE",
      "e LEFT MIDDLE STROKEe ATTACHED KASRAf BOTTOM RIGHT KASRAf ROUND DOT ABOVEf RIGHT ROUND DOT",
      "f LEFT ROUND DOTf ROUND DOT BELOWe DOT ABOVEe ATTACHED TOP RIGHT FATHA AND DOT ABOVE",
      "e RIGHT MIDDLE STROKE AND DOT ABOVEe ATTACHED BOTTOM RIGHT KASRA AND DOT ABOVE",
      "f TOP RIGHT FATHA AND LEFT RINGe RIGHT MIDDLE STROKE AND LEFT RING",
      "e ATTACHED BOTTOM RIGHT KASRA AND LEFT RINGf RIGHT HAMZAf LEFT HAMZA",
      "b TATWEEL WITH OVERSTRUCK HAMZAe WAWd TWO DOTS BELOWb LETTER THIN YEHb BASELINE ROUND DOT",
      "b RAISED ROUND DOTb LETTER NOON WITH INVERTED SMALL Vc HAH WITH INVERTED SMALL V BELOW",
      "c TAH WITH DOT BELOWe THREE DOTS BELOWc KEHEH WITH TWO DOTS VERTICALLY BELOW",
      "b VERTICAL TAIL"]⟩,
    ⟨0x890, ["aARABIC POUND MARK ABOVEb PIASTRE MARK ABOVE"]⟩,
    ⟨0x898, ["aARABIC SMALL HIGH WORD AL-JUZc LOW WORD ISHMAAMe IMAALAe TASHEELb MADDA WAAJIB",
      "b SUPERSCRIPT ALEF MOKHASSASb DOUBLED MADDAb HALF MADDA OVER MADDA",
      "b LETTER BEH WITH SMALL V BELOWe HAMZA ABOVEc JEEM WITH TWO DOTS ABOVE",
      "c TAH WITH TWO DOTS ABOVEc FEH WITH DOT BELOW AND THREE DOTS ABOVEc QAF WITH DOT BELOW",
      "c LAM WITH DOUBLE BARc MEEM WITH THREE DOTS ABOVEc YEH WITH TWO DOTS BELOW AND HAMZA ABOVE",
      "i DOT ABOVEc REH WITH LOOPc WAW WITH DOT WITHINc ROHINGYA YEHc LOW ALEF",
      "c DAL WITH THREE DOTS BELOWc SAD WITH THREE DOTS BELOWc GAF WITH INVERTED STROKE",
      "c STRAIGHT WAWc ZAIN WITH INVERTED V ABOVEc AIN WITH THREE DOTS BELOWc KAF WITH DOT BELOW",
      "c QAF WITH DOT BELOW AND NO DOTS ABOVEc BEH WITH SMALL MEEM ABOVE",
      "c PEH WITH SMALL MEEM ABOVEc TEH WITH SMALL TEH ABOVEc REH WITH SMALL NOON ABOVE",
      "c YEH WITH TWO DOTS BELOW AND SMALL NOON ABOVEc AFRICAN FEHd QAFd NOONc PEH WITH SMALL V",
      "c TEH WITH SMALL Vc TTEH WITH SMALL Vc TCHEH WITH SMALL Vc KEHEH WITH SMALL V",
      "c GHAIN WITH THREE DOTS ABOVEc AFRICAN QAF WITH THREE DOTS ABOVE",
      "c JEEM WITH THREE DOTS ABOVEg BELOWc LAM WITH SMALL ARABIC LETTER TAH ABOVEc GRAF",
      "b SMALL FARSI YEHc HIGH FARSI YEHd YEH BARREE WITH TWO DOTS BELOWd WORD SAHd ZAH",
      "b LARGE ROUND DOT ABOVEe BELOWb SUKUN BELOWb LARGE CIRCLE BELOW",
      "c ROUND DOT INSIDE CIRCLE BELOWb SMALL LOW WAWc HIGH WORD AR-RUBd SADd AINd QAF",
      "d NOON WITH KASRAc LOW NOON WITH KASRAc HIGH WORD ATH-THALATHAe AS-SAJDAe AN-NISFe SAKTA",
      "e QIFe WAQFAd FOOTNOTE MARKERd SIGN SAFHAb DISPUTED END OF AYAHb TURNED DAMMA BELOW",
      "b CURLY FATHAc DAMMAc KASRAc FATHATANc DAMMATANc KASRATANb TONE ONE DOT ABOVE",
      "c TWO DOTS ABOVEc LOOP ABOVEc ONE DOT BELOWc TWO DOTS BELOWc LOOP BELOWb OPEN FATHATAN",
      "c DAMMATANc KASRATANb SMALL HIGH WAWb FATHA WITH RINGd DOT ABOVEb KASRA WITH DOT BELOW",
      "b LEFT ARROWHEAD ABOVEb RIGHT ARROWHEAD ABOVEb LEFT ARROWHEAD BELOWb RIGHT ARROWHEAD BELOW",
      "b DOUBLE RIGHT ARROWHEAD ABOVEf WITH DOTb RIGHT ARROWHEAD ABOVE WITH DOTb DAMMA WITH DOT",
      "b MARK SIDEWAYS NOON GHUNNAaDEVANAGARI SIGN INVERTED CANDRABINDUc CANDRABINDUc ANUSVARA",
      "c VISARGAb LETTER SHORT Ac Ac AAc Ic IIc Uc UUc VOCALIC Rd Lc CANDRA Ec SHORT Ec Ec AI",
      "c CANDRA Oc SHORT Oc Oc AUc KAc KHAc GAc GHAc NGAc CAc CHAc JAc JHAc NYAc TTAc TTHAc DDA",
      "c DDHAc NNAc TAc THAc DAc DHAc NAc NNNAc PAc PHAc BAc BHAc MAc YAc RAc RRAc LAc LLAc LLLA",
      "c VAc SHAc SSAc SAc HAb VOWEL SIGN OEd OOEb SIGN NUKTAc AVAGRAHAb VOWEL SIGN AAd Id IId U",
      "d UUd VOCALIC Re RRd CANDRA Ed SHORT Ed Ed AId CANDRA Od SHORT Od Od AUb SIGN VIRAMA",
      "b VOWEL SIGN PRISHTHAMATRA Ed AWb OMb STRESS SIGN UDATTAd ANUDATTAb GRAVE ACCENT",
      "b ACUTE ACCENTb VOWEL SIGN CANDRA LONG Ed UEd UUEb LETTER QAc KHHAc GHHAc ZAc DDDHAc RHA",
      "c FAc YYAc VOCALIC RRd LLb VOWEL SIGN VOCALIC Le LLb DANDAb DOUBLE DANDAb DIGIT ZEROc ONE",
      "c TWOc THREEc FOURc FIVEc SIXc SEVENc EIGHTc NINEb ABBREVIATION SIGNb SIGN HIGH SPACING DOT",
      "b LETTER CANDRA Ac OEc OOEc AWc UEc UUEc MARWARI DDAc ZHAc HEAVY YAc GGAc JJAc GLOTTAL STOP",
      "c DDDAc BBAaBENGALI ANJIb SIGN CANDRABINDUc ANUSVARAc VISARGA"]⟩,
    ⟨0x985, ["aBENGALI LETTER Ac AAc Ic IIc Uc UUc VOCALIC Rd L"]⟩,
    ⟨0x98F, ["aBENGALI LETTER Ec AI"]⟩,
    ⟨0x993, ["aBENGALI LETTER Oc AUc KAc KHAc GAc GHAc NGAc CAc CHAc JAc JHAc NYAc TTAc TTHAc DDA",
      "c DDHAc NNAc TAc THAc DAc DHAc NA"]⟩,
    ⟨0x9AA, ["aBENGALI LETTER PAc PHAc BAc BHAc MAc YAc RA"]⟩,
    ⟨0x9B2, ["aBENGALI LETTER LA"]⟩,
    ⟨0x9B6, ["aBENGALI LETTER SHAc SSAc SAc HA"]⟩,
    ⟨0x9BC, ["aBENGALI SIGN NUKTAc AVAGRAHAb VOWEL SIGN AAd Id IId Ud UUd VOCALIC Re RR"]⟩,
    ⟨0x9C7, ["aBENGALI VOWEL SIGN Ed AI"]⟩,
    ⟨0x9CB, ["aBENGALI VOWEL SIGN Od AUb SIGN VIRAMAb LETTER KHANDA TA"]⟩,
    ⟨0x9D7, ["aBENGALI AU LENGTH MARK"]⟩,
    ⟨0x9DC, ["aBENGALI LETTER RRAc RHA"]⟩,
    ⟨0x9DF, ["aBENGALI LETTER YYAc VOCALIC RRd LLb VOWEL SIGN VOCALIC Le LL"]⟩,
    ⟨0x9E6, ["aBENGALI DIGIT ZEROc ONEc TWOc THREEc FOURc FIVEc SIXc SEVENc EIGHTc NINE",
      "b LETTER RA WITH MIDDLE DIAGONALe LOWER DIAGONALb RUPEE MARKc SIGNb CURRENCY NUMERATOR ONE",
      "d TWOd THREEd FOURd ONE LESS THAN THE DENOMINATORc DENOMINATOR SIXTEENb ISSHARb GANDA MARK",
      "b LETTER VEDIC ANUSVARAb ABBREVIATION SIGNb SANDHI MARK"]⟩,
    ⟨0xA01, ["aGURMUKHI SIGN ADAK BINDIc BINDIc VISARGA"]⟩,
    ⟨0xA05, ["aGURMUKHI LETTER Ac AAc Ic IIc Uc UU"]⟩,
    ⟨0xA0F, ["aGURMUKHI LETTER EEc AI"]⟩,
    ⟨0xA13, ["aGURMUKHI LETTER OOc AUc KAc KHAc GAc GHAc NGAc CAc CHAc JAc JHAc NYAc TTAc TTHA",
      "c DDAc DDHAc NNAc TAc THAc DAc DHAc NA"]⟩,
    ⟨0xA2A, ["aGURMUKHI LETTER PAc PHAc BAc BHAc MAc YAc RA"]⟩,
    ⟨0xA32, ["aGURMUKHI LETTER LAc LLA"]⟩,
    ⟨0xA35, ["aGURMUKHI LETTER VAc SHA"]⟩,
    ⟨0xA38, ["aGURMUKHI LETTER SAc HA"]⟩,
    ⟨0xA3C, ["aGURMUKHI SIGN NUKTA"]⟩,
    ⟨0xA3E, ["aGURMUKHI VOWEL SIGN AAd Id IId Ud UU"]⟩,
    ⟨0xA47, ["aGURMUKHI VOWEL SIGN EEd AI"]⟩,
    ⟨0xA4B, ["aGURMUKHI VOWEL SIGN OOd AUb SIGN VIRAMA"]⟩,
    ⟨0xA51, ["aGURMUKHI SIGN UDAAT"]⟩,
    ⟨0xA59, ["aGURMUKHI LETTER KHHAc GHHAc ZAc RRA"]⟩,
    ⟨0xA5E, ["aGURMUKHI LETTER FA"]⟩,
    ⟨0xA66, ["aGURMUKHI DIGIT ZEROc ONEc TWOc THREEc FOURc FIVEc SIXc SEVENc EIGHTc NINEb TIPPI",
      "b ADDAKb IRIb URAb EK ONKARb SIGN YAKASHb ABBREVIATION SIGN"]⟩,
    ⟨0xA81, ["aGUJARATI SIGN CANDRABINDUc ANUSVARAc VISARGA"]⟩,
    ⟨0xA85, ["aGUJARATI LETTER Ac AAc Ic IIc Uc UUc VOCALIC Rd Lb VOWEL CANDRA E"]⟩,
    ⟨0xA8F, ["aGUJARATI LETTER Ec AIb VOWEL CANDRA O"]⟩,
    ⟨0xA93, ["aGUJARATI LETTER Oc AUc KAc KHAc GAc GHAc NGAc CAc CHAc JAc JHAc NYAc TTAc TTHAc DDA",
      "c DDHAc NNAc TAc THAc DAc DHAc NA"]⟩,
    ⟨0xAAA, ["aGUJARATI LETTER PAc PHAc BAc BHAc MAc YAc RA"]⟩,
    ⟨0xAB2, ["aGUJARATI LETTER LAc LLA"]⟩,
    ⟨0xAB5, ["aGUJARATI LETTER VAc SHAc SSAc SAc HA"]⟩,
    ⟨0xABC, ["aGUJARATI SIGN NUKTAc AVAGRAHAb VOWEL SIGN AAd Id IId Ud UUd VOCALIC Re RR",
      "d CANDRA E"]⟩,
    ⟨0xAC7, ["aGUJARATI VOWEL SIGN Ed AId CANDRA O"]⟩,
    ⟨0xACB, ["aGUJARATI VOWEL SIGN Od AUb SIGN VIRAMA"]⟩,
    ⟨0xAD0, ["aGUJARATI OM"]⟩,
    ⟨0xAE0, ["aGUJARATI LETTER VOCALIC RRd LLb VOWEL SIGN VOCALIC Le LL"]⟩,
    ⟨0xAE6, ["aGUJARATI DIGIT ZEROc ONEc TWOc THREEc FOURc FIVEc SIXc SEVENc EIGHTc NINE",
      "b ABBREVIATION SIGNb RUPEE SIGN"]⟩,
    ⟨0xAF9, ["aGUJARATI LETTER ZHAb SIGN SUKUNc SHADDAc MADDAHc THREE-DOT NUKTA ABOVE",
      "c CIRCLE NUKTA ABOVEc TWO-CIRCLE NUKTA ABOVE"]⟩,
    ⟨0xB01, ["aORIYA SIGN CANDRABINDUc ANUSVARAc VISARGA"]⟩,
    ⟨0xB05, ["aORIYA LETTER Ac AAc Ic IIc Uc UUc VOCALIC Rd L"]⟩,
    ⟨0xB0F, ["aORIYA LETTER Ec AI"]⟩,
    ⟨0xB13, ["aORIYA LETTER Oc AUc KAc KHAc GAc GHAc NGAc CAc CHAc JAc JHAc NYAc TTAc TTHAc DDA",
      "c DDHAc NNAc TAc THAc DAc DHAc NA"]⟩,
    ⟨0xB2A, ["aORIYA LETTER PAc PHAc BAc BHAc MAc YAc RA"]⟩,
    ⟨0xB32, ["aORIYA LETTER LAc LLA"]⟩,
    ⟨0xB35, ["aORIYA LETTER VAc SHAc SSAc SAc HA"]⟩,
    ⟨0xB3C, ["aORIYA SIGN NUKTAc AVAGRAHAb VOWEL SIGN AAd Id IId Ud UUd VOCALIC Re RR"]⟩,
    ⟨0xB47, ["aORIYA VOWEL SIGN Ed AI"]⟩,
    ⟨0xB4B, ["aORIYA VOWEL SIGN Od AUb SIGN VIRAMA"]⟩,
    ⟨0xB55, ["aORIYA SIGN OVERLINEb AI LENGTH MARKb AU LENGTH MARK"]⟩,
    ⟨0xB5C, ["aORIYA LETTER RRAc RHA"]⟩,
    ⟨0xB5F, ["aORIYA LETTER YYAc VOCALIC RRd LLb VOWEL SIGN VOCALIC Le LL"]⟩,
    ⟨0xB66, ["aORIYA DIGIT ZEROc ONEc TWOc THREEc FOURc FIVEc SIXc SEVENc EIGHTc NINEb ISSHAR",
      "b LETTER WAb FRACTION ONE QUARTERd HALFc THREE QUARTERSc ONE SIXTEENTHd EIGHTH",
      "c THREE SIXTEENTHS"]⟩,
    ⟨0xB82, ["aTAMIL SIGN ANUSVARAc VISARGA"]⟩,
    ⟨0xB85, ["aTAMIL LETTER Ac AAc Ic IIc Uc UU"]⟩,
    ⟨0xB8E, ["aTAMIL LETTER Ec EEc AI"]⟩,
    ⟨0xB92, ["aTAMIL LETTER Oc OOc AUc KA"]⟩,
    ⟨0xB99, ["aTAMIL LETTER NGAc CA"]⟩,
    ⟨0xB9C, ["aTAMIL LETTER JA"]⟩,
    ⟨0xB9E, ["aTAMIL LETTER NYAc TTA"]⟩,
    ⟨0xBA3, ["aTAMIL LETTER NNAc TA"]⟩,
    ⟨0xBA8, ["aTAMIL LETTER NAc NNNAc PA"]⟩,
    ⟨0xBAE, ["aTAMIL LETTER MAc YAc RAc RRAc LAc LLAc LLLAc VAc SHAc SSAc SAc HA"]⟩,
    ⟨0xBBE, ["aTAMIL VOWEL SIGN AAd Id IId Ud UU"]⟩,
    ⟨0xBC6, ["aTAMIL VOWEL SIGN Ed EEd AI"]⟩,
    ⟨0xBCA, ["aTAMIL VOWEL SIGN Od OOd AUb SIGN VIRAMA"]⟩,
    ⟨0xBD0, ["aTAMIL OM"]⟩,
    ⟨0xBD7, ["aTAMIL AU LENGTH MARK"]⟩,
    ⟨0xBE6, ["aTAMIL DIGIT ZEROc ONEc TWOc THREEc FOURc FIVEc SIXc SEVENc EIGHTc NINEb NUMBER TEN",
      "c ONE HUNDREDd THOUSANDb DAY SIGNb MONTH SIGNb YEAR SIGNb DEBIT SIGNb CREDIT SIGN",
      "b AS ABOVE SIGNb RUPEE SIGNb NUMBER SIGN"]⟩,
    ⟨0xC00, ["aTELUGU SIGN COMBINING CANDRABINDU ABOVEc CANDRABINDUc ANUSVARAc VISARGA",
      "c COMBINING ANUSVARA ABOVEb LETTER Ac AAc Ic IIc Uc UUc VOCALIC Rd L"]⟩,
    ⟨0xC0E, ["aTELUGU LETTER Ec EEc AI"]⟩,
    ⟨0xC12, ["aTELUGU LETTER Oc OOc AUc KAc KHAc GAc GHAc NGAc CAc CHAc JAc JHAc NYAc TTAc TTHA",
      "c DDAc DDHAc NNAc TAc THAc DAc DHAc NA"]⟩,
    ⟨0xC2A, ["aTELUGU LETTER PAc PHAc BAc BHAc MAc YAc RAc RRAc LAc LLAc LLLAc VAc SHAc SSAc SA",
      "c HA"]⟩,
    ⟨0xC3C, ["aTELUGU SIGN NUKTAc AVAGRAHAb VOWEL SIGN AAd Id IId Ud UUd VOCALIC Re RR"]⟩,
    ⟨0xC46, ["aTELUGU VOWEL SIGN Ed EEd AI"]⟩,
    ⟨0xC4A, ["aTELUGU VOWEL SIGN Od OOd AUb SIGN VIRAMA"]⟩,
    ⟨0xC55, ["aTELUGU LENGTH MARKb AI LENGTH MARK"]⟩,
    ⟨0xC58, ["aTELUGU LETTER TSAc DZAc RRRA"]⟩,
    ⟨0xC5D, ["aTELUGU LETTER NAKAARA POLLU"]⟩,
    ⟨0xC60, ["aTELUGU LETTER VOCALIC RRd LLb VOWEL SIGN VOCALIC Le LL"]⟩,
    ⟨0xC66, ["aTELUGU DIGIT ZEROc ONEc TWOc THREEc FOURc FIVEc SIXc SEVENc EIGHTc NINE"]⟩,
    ⟨0xC77, ["aTELUGU SIGN SIDDHAMb FRACTION DIGIT ZERO FOR ODD POWERS OF FOUR",
      "d ONE FOR ODD POWERS OF FOURd TWO FOR ODD POWERS OF FOURd THREE FOR ODD POWERS OF FOUR",
      "d ONE FOR EVEN POWERS OF FOURd TWO FOR EVEN POWERS OF FOURd THREE FOR EVEN POWERS OF FOUR",
      "b SIGN TUUMUaKANNADA SIGN SPACING CANDRABINDUc CANDRABINDUc ANUSVARAc VISARGAc SIDDHAM",
      "b LETTER Ac AAc Ic IIc Uc UUc VOCALIC Rd L"]⟩,
    ⟨0xC8E, ["aKANNADA LETTER Ec EEc AI"]⟩,
    ⟨0xC92, ["aKANNADA LETTER Oc OOc AUc KAc KHAc GAc GHAc NGAc CAc CHAc JAc JHAc NYAc TTAc TTHA",
      "c DDAc DDHAc NNAc TAc THAc DAc DHAc NA"]⟩,
    ⟨0xCAA, ["aKANNADA LETTER PAc PHAc BAc BHAc MAc YAc RAc RRAc LAc LLA"]⟩,
    ⟨0xCB5, ["aKANNADA LETTER VAc SHAc SSAc SAc HA"]⟩,
    ⟨0xCBC, ["aKANNADA SIGN NUKTAc AVAGRAHAb VOWEL SIGN AAd Id IId Ud UUd VOCALIC Re RR"]⟩,
    ⟨0xCC6, ["aKANNADA VOWEL SIGN Ed EEd AI"]⟩,
    ⟨0xCCA, ["aKANNADA VOWEL SIGN Od OOd AUb SIGN VIRAMA"]⟩,
    ⟨0xCD5, ["aKANNADA LENGTH MARKb AI LENGTH MARK"]⟩,
    ⟨0xCDD, ["aKANNADA LETTER NAKAARA POLLUc FA"]⟩,
    ⟨0xCE0, ["aKANNADA LETTER VOCALIC RRd LLb VOWEL SIGN VOCALIC Le LL"]⟩,
    ⟨0xCE6, ["aKANNADA DIGIT ZEROc ONEc TWOc THREEc FOURc FIVEc SIXc SEVENc EIGHTc NINE"]⟩,
    ⟨0xCF1, ["aKANNADA SIGN JIHVAMULIYAc UPADHMANIYA"]⟩,
    ⟨0xD00, ["aMALAYALAM SIGN COMBINING ANUSVARA ABOVEc CANDRABINDUc ANUSVARAc VISARGA",
      "b LETTER VEDIC ANUSVARAc Ac AAc Ic IIc Uc UUc VOCALIC Rd L"]⟩,
    ⟨0xD0E, ["aMALAYALAM LETTER Ec EEc AI"]⟩,
    ⟨0xD12, ["aMALAYALAM LETTER Oc OOc AUc KAc KHAc GAc GHAc NGAc CAc CHAc JAc JHAc NYAc TTAc TTHA",
      "c DDAc DDHAc NNAc TAc THAc DAc DHAc NAc NNNAc PAc PHAc BAc BHAc MAc YAc RAc RRAc LAc LLA",
      "c LLLAc VAc SHAc SSAc SAc HAc TTTAb SIGN VERTICAL BAR VIRAMAc CIRCULAR VIRAMAc AVAGRAHA",
      "b VOWEL SIGN AAd Id IId Ud UUd VOCALIC Re RR"]⟩,
    ⟨0xD46, ["aMALAYALAM VOWEL SIGN Ed EEd AI"]⟩,
    ⟨0xD4A, ["aMALAYALAM VOWEL SIGN Od OOd AUb SIGN VIRAMAb LETTER DOT REPHb SIGN PARA"]⟩,
    ⟨0xD54, ["aMALAYALAM LETTER CHILLU Md Yd LLLb AU LENGTH MARK",
      "b FRACTION ONE ONE-HUNDRED-AND-SIXTIETHd FORTIETHc THREE EIGHTIETHSc ONE TWENTIETHd TENTH",
      "c THREE TWENTIETHSc ONE FIFTHb LETTER ARCHAIC IIc VOCALIC RRd LLb VOWEL SIGN VOCALIC L",
      "e LL"]⟩,
    ⟨0xD66, ["aMALAYALAM DIGIT ZEROc ONEc TWOc THREEc FOURc FIVEc SIXc SEVENc EIGHTc NINE",
      "b NUMBER TENc ONE HUNDREDd THOUSANDb FRACTION ONE QUARTERd HALFc THREE QUARTERS",
      "c ONE SIXTEENTHd EIGHTHc THREE SIXTEENTHSb DATE MARKb LETTER CHILLU NNd Nd RRd Ld LLd K"]⟩,
    ⟨0xD81, ["aSINHALA SIGN CANDRABINDUc ANUSVARAYAc VISARGAYA"]⟩,
    ⟨0xD85, ["aSINHALA LETTER AYANNAc AAYANNAc AEYANNAc AEEYANNAc IYANNAc IIYANNAc UYANNAc UUYANNA",
      "c IRUYANNAc IRUUYANNAc ILUYANNAc ILUUYANNAc EYANNAc EEYANNAc AIYANNAc OYANNAc OOYANNA",
      "c AUYANNA"]⟩,
    ⟨0xD9A, ["aSINHALA LETTER ALPAPRAANA KAYANNAc MAHAAPRAANA KAYANNAc ALPAPRAANA GAYANNA",
      "c MAHAAPRAANA GAYANNAc KANTAJA NAASIKYAYAc SANYAKA GAYANNAc ALPAPRAANA CAYANNA",
      "c MAHAAPRAANA CAYANNAc ALPAPRAANA JAYANNAc MAHAAPRAANA JAYANNAc TAALUJA NAASIKYAYA",
      "d SANYOOGA NAAKSIKYAYAc SANYAKA JAYANNAc ALPAPRAANA TTAYANNAc MAHAAPRAANA TTAYANNA",
      "c ALPAPRAANA DDAYANNAc MAHAAPRAANA DDAYANNAc MUURDHAJA NAYANNAc SANYAKA DDAYANNA",
      "c ALPAPRAANA TAYANNAc MAHAAPRAANA TAYANNAc ALPAPRAANA DAYANNAc MAHAAPRAANA DAYANNA",
      "c DANTAJA NAYANNA"]⟩,
    ⟨0xDB3, ["aSINHALA LETTER SANYAKA DAYANNAc ALPAPRAANA PAYANNAc MAHAAPRAANA PAYANNA",
      "c ALPAPRAANA BAYANNAc MAHAAPRAANA BAYANNAc MAYANNAc AMBA BAYANNAc YAYANNAc RAYANNA"]⟩,
    ⟨0xDBD, ["aSINHALA LETTER DANTAJA LAYANNA"]⟩,
    ⟨0xDC0, ["aSINHALA LETTER VAYANNAc TAALUJA SAYANNAc MUURDHAJA SAYANNAc DANTAJA SAYANNA",
      "c HAYANNAc MUURDHAJA LAYANNAc FAYANNA"]⟩,
    ⟨0xDCA, ["aSINHALA SIGN AL-LAKUNA"]⟩,
    ⟨0xDCF, ["aSINHALA VOWEL SIGN AELA-PILLAd KETTI AEDA-PILLAd DIGA AEDA-PILLAd KETTI IS-PILLA",
      "d DIGA IS-PILLAd KETTI PAA-PILLA"]⟩,
    ⟨0xDD6, ["aSINHALA VOWEL SIGN DIGA PAA-PILLA"]⟩,
    ⟨0xDD8, ["aSINHALA VOWEL SIGN GAETTA-PILLAd KOMBUVAd DIGA KOMBUVAd KOMBU DEKA",
      "d KOMBUVA HAA AELA-PILLAf DIGA AELA-PILLAf GAYANUKITTAd GAYANUKITTA"]⟩,
    ⟨0xDE6, ["aSINHALA LITH DIGIT ZEROd ONEd TWOd THREEd FOURd FIVEd SIXd SEVENd EIGHTd NINE"]⟩,
    ⟨0xDF2, ["aSINHALA VOWEL SIGN DIGA GAETTA-PILLAe GAYANUKITTAb PUNCTUATION KUNDDALIYA"]⟩,
    ⟨0xE01, ["aTHAI CHARACTER KO KAIc KHO KHAId KHUATd KHWAId KHONd RAKHANGc NGO NGUc CHO CHAN",
      "d CHINGd CHANGc SO SOc CHO CHOEc YO YINGc DO CHADAc TO PATAKc THO THANd NANGMONTHOd PHUTHAO",
      "c NO NENc DO DEKc TO TAOc THO THUNGd THAHANd THONGc NO NUc BO BAIMAIc PO PLAc PHO PHUNG",
      "c FO FAc PHO PHANc FO FANc PHO SAMPHAOc MO MAc YO YAKc RO RUAc RUc LO LINGc LUc WO WAEN",
      "c SO SALAd RUSId SUAc HO HIPc LO CHULAc O ANGc HO NOKHUKc PAIYANNOIc SARA Ac MAI HAN-AKAT",
      "c SARA AAd AMd Id IId UEd UEEd Ud UUc PHINTHU"]⟩,
    ⟨0xE3F, ["aTHAI CURRENCY SYMBOL BAHTb CHARACTER SARA Ed AEd Od AI MAIMUANe MAIMALAI",
      "c LAKKHANGYAOc MAIYAMOKc MAITAIKHUc MAI EKd THOd TRId CHATTAWAc THANTHAKHATc NIKHAHIT",
      "c YAMAKKANc FONGMANb DIGIT ZEROc ONEc TWOc THREEc FOURc FIVEc SIXc SEVENc EIGHTc NINE",
      "b CHARACTER ANGKHANKHUc KHOMUT"]⟩,
    ⟨0xE81, ["aLAO LETTER KOc KHO SUNG"]⟩,
    ⟨0xE84, ["aLAO LETTER KHO TAM"]⟩,
    ⟨0xE86, ["aLAO LETTER PALI GHAc NGOc COc PALI CHAc SO TAM"]⟩,
    ⟨0xE8C, ["aLAO LETTER PALI JHAc NYOc PALI NYAd TTAd TTHAd DDAd DDHAd NNAc DOc TOc THO SUNG",
      "d TAMc PALI DHAc NOc BOc POc PHO SUNGc FO TAMc PHO TAMc FO SUNGc PALI BHAc MOc YO",
      "c LO LING"]⟩,
    ⟨0xEA5, ["aLAO LETTER LO LOOT"]⟩,
    ⟨0xEA7, ["aLAO LETTER WOc SANSKRIT SHAd SSAc SO SUNGc HO SUNGc PALI LLAc Oc HO TAMb ELLIPSIS",
      "b VOWEL SIGN Ad MAI KANd AAd AMd Id IId Yd YYd Ud UUb SIGN PALI VIRAMAb VOWEL SIGN MAI KON",
      "b SEMIVOWEL SIGN LOd NYO"]⟩,
    ⟨0xEC0, ["aLAO VOWEL SIGN Ed EId Od AYd AI"]⟩,
    ⟨0xEC6, ["aLAO KO LA"]⟩,
    ⟨0xEC8, ["aLAO TONE MAI EKd THOd TId CATAWAb CANCELLATION MARKb NIGGAHITA"]⟩,
    ⟨0xED0, ["aLAO DIGIT ZEROc ONEc TWOc THREEc FOURc FIVEc SIXc SEVENc EIGHTc NINE"]⟩,
    ⟨0xEDC, ["aLAO HO NOc MOb LETTER KHMU GOd NYO"]⟩,
    ⟨0xF00, ["aTIBETAN SYLLABLE OMb MARK GTER YIG MGO TRUNCATED Af -UM RNAM BCAD MAh GTER TSHEG MA",
      "c INITIAL YIG MGO MDUN MAc CLOSING YIG MGO SGAB MAc CARET YIG MGO PHUR SHAD MA",
      "c YIG MGO TSHEG SHAD MAc SBRUL SHADc BSKUR YIG MGOc BKA- SHOG YIG MGOc INTERSYLLABIC TSHEG",
      "c DELIMITER TSHEG BSTARc SHADc NYIS SHADc TSHEG SHADc NYIS TSHEG SHADc RIN CHEN SPUNGS SHAD",
      "c RGYA GRAM SHADc CARET -DZUD RTAGS ME LONG CANc GTER TSHEGb LOGOTYPE SIGN CHAD RTAGS",
      "d LHAG RTAGSb ASTROLOGICAL SIGN SGRA GCAN -CHAR RTAGSd -KHYUD PAd SDONG TSHUGS",
      "b SIGN RDEL DKAR GCIGe GNYISe GSUMd NAG GCIGe GNYISd DKAR RDEL NAGb DIGIT ZEROc ONEc TWO",
      "c THREEc FOURc FIVEc SIXc SEVENc EIGHTc NINEc HALF ONEd TWOd THREEd FOURd FIVEd SIXd SEVEN",
      "d EIGHTd NINEd ZEROb MARK BSDUS RTAGSc NGAS BZUNG NYI ZLAc CARET -DZUD RTAGS BZHI MIG CAN",
      "c NGAS BZUNG SGOR RTAGSc CHE MGOc TSA -PHRUc GUG RTAGS GYONe GYASc ANG KHANG GYONe GYAS",
      "b SIGN YAR TSHESc MAR TSHESb LETTER KAc KHAc GAc GHAc NGAc CAc CHAc JA"]⟩,
    ⟨0xF49, ["aTIBETAN LETTER NYAc TTAc TTHAc DDAc DDHAc NNAc TAc THAc DAc DHAc NAc PAc PHAc BA",
      "c BHAc MAc TSAc TSHAc DZAc DZHAc WAc ZHAc ZAc -Ac YAc RAc LAc SHAc SSAc SAc HAc Ac KSSA",
      "c FIXED-FORM RAc KKAc RRA"]⟩,
    ⟨0xF71, ["aTIBETAN VOWEL SIGN AAd Id IId Ud UUd VOCALIC Re RRe Le LLd Ed EEd Od OO",
      "b SIGN RJES SU NGA ROc RNAM BCADb VOWEL SIGN REVERSED Ie IIb SIGN NYI ZLA NAA DAc SNA LDAN",
      "b MARK HALANTAc PALUTAb SIGN LCI RTAGSc YANG RTAGSc LCE TSA CANc MCHU CANc GRU CAN RGYINGS",
      "d MED RGYINGSc INVERTED MCHU CANb SUBJOINED SIGN LCE TSA CANd MCHU CANd INVERTED MCHU CAN",
      "c LETTER KAd KHAd GAd GHAd NGAd CAd CHAd JA"]⟩,
    ⟨0xF99, ["aTIBETAN SUBJOINED LETTER NYAd TTAd TTHAd DDAd DDHAd NNAd TAd THAd DAd DHAd NAd PA",
      "d PHAd BAd BHAd MAd TSAd TSHAd DZAd DZHAd WAd ZHAd ZAd -Ad YAd RAd LAd SHAd SSAd SAd HAd A",
      "d KSSAd FIXED-FORM WAf YAf RA"]⟩,
    ⟨0xFBE, ["aTIBETAN KU RU KHAe BZHI MIG CANb CANTILLATION SIGN HEAVY BEATd LIGHT BEAT",
      "d CANG TE-Ud SBUB -CHALb SYMBOL DRIL BUc RDO RJEc PADMA GDANc RDO RJE RGYA GRAMc PHUR PA",
      "c NOR BUe NYIS -KHYILe GSUM -KHYILe BZHI -KHYIL"]⟩,
    ⟨0xFCE, ["aTIBETAN SIGN RDEL NAG RDEL DKARe GSUMb MARK BSKA- SHOG GI MGO RGYAN",
      "c MNYAM YIG GI MGO RGYANc NYIS TSHEGc INITIAL BRDA RNYING YIG MGO MDUN MA",
      "c CLOSING BRDA RNYING YIG MGO SGAB MAaRIGHT-FACING SVASTI SIGNaLEFT-FACING SVASTI SIGN",
      "aRIGHT-FACING SVASTI SIGN WITH DOTSaLEFT-FACING SVASTI SIGN WITH DOTS",
      "aTIBETAN MARK LEADING MCHAN RTAGSc TRAILING MCHAN RTAGS"]⟩
  ]

end PromptContract.Text

import PromptContract.Libraries.Text.CharacterName.Run

/-!
# Names of characters: ancient

The names of scripts of the ancient world and of India:
the characters from U+10000 to U+11FFF, by runs.
-/

namespace PromptContract.Text

/-- The names of scripts of the ancient world and of India. -/
def ancientNames : Array NameRun :=
  #[
    ⟨0x10000, ["aLINEAR B SYLLABLE B008 Ad B038 Ed B028 Id B061 Od B010 Ud B001 DAd B045 DE",
      "d B007 DId B014 DOd B051 DUd B057 JAd B046 JE"]⟩,
    ⟨0x1000D, ["aLINEAR B SYLLABLE B036 JOd B065 JUd B077 KAd B044 KEd B067 KId B070 KOd B081 KU",
      "d B080 MAd B013 MEd B073 MId B015 MOd B023 MUd B006 NAd B024 NEd B030 NId B052 NOd B055 NU",
      "d B003 PAd B072 PEd B039 PId B011 POd B050 PUd B016 QAd B078 QEd B021 QId B032 QO"]⟩,
    ⟨0x10028, ["aLINEAR B SYLLABLE B060 RAd B027 REd B053 RId B002 ROd B026 RUd B031 SAd B009 SE",
      "d B041 SId B012 SOd B058 SUd B059 TAd B004 TEd B037 TId B005 TOd B069 TUd B054 WAd B075 WE",
      "d B040 WId B042 WO"]⟩,
    ⟨0x1003C, ["aLINEAR B SYLLABLE B017 ZAd B074 ZE"]⟩,
    ⟨0x1003F, ["aLINEAR B SYLLABLE B020 ZOd B025 A2d B043 A3d B085 AUd B071 DWEd B090 DWO",
      "d B048 NWAd B029 PU2d B062 PTEd B076 RA2d B033 RA3d B068 RO2d B066 TA2d B087 TWE",
      "d B091 TWO"]⟩,
    ⟨0x10050, ["aLINEAR B SYMBOL B018d B019d B022d B034d B047d B049d B056d B063d B064d B079d B082",
      "d B083d B086d B089"]⟩,
    ⟨0x10080, ["aLINEAR B IDEOGRAM B100 MANd B102 WOMANd B104 DEERd B105 EQUIDd B105F MARE",
      "d B105M STALLIONd B106F EWEd B106M RAMd B107F SHE-GOATd B107M HE-GOATd B108F SOW",
      "d B108M BOARd B109F COWd B109M BULLd B120 WHEATd B121 BARLEYd B122 OLIVEd B123 SPICE",
      "d B125 CYPERUSc MONOGRAM B127 KAPOd B128 KANAKOc IDEOGRAM B130 OILd B131 WINEd B132",
      "c MONOGRAM B133 AREPAd B135 MERIc IDEOGRAM B140 BRONZEd B141 GOLDd B142d B145 WOOLd B146",
      "d B150d B151 HORNd B152d B153d B154c MONOGRAM B156 TURO2c IDEOGRAM B157d B158d B159 CLOTH",
      "d B160d B161d B162 GARMENTd B163 ARMOURd B164d B165d B166d B167d B168d B169d B170d B171",
      "d B172d B173 MONTHd B174d B176 TREEd B177d B178d B179d B180d B181d B182d B183d B184d B185",
      "d B189d B190d B191 HELMETd B220 FOOTSTOOLd B225 BATHTUBd B230 SPEARd B231 ARROWd B232",
      "d B233 SWORDd B234d B236d B240 WHEELED CHARIOTd B241 CHARIOTd B242 CHARIOT FRAME",
      "d B243 WHEELd B245d B246c MONOGRAM B247 DIPTEc IDEOGRAM B248d B249d B251d B252d B253",
      "d B254 DARTd B255d B256d B257d B258d B259d VESSEL B155e B200e B201e B202e B203e B204e B205",
      "e B206e B207e B208e B209e B210e B211e B212e B213e B214e B215e B216e B217e B218e B219e B221",
      "e B222e B226e B227e B228e B229e B250e B305"]⟩,
    ⟨0x10100, ["aAEGEAN WORD SEPARATOR LINEd DOTb CHECK MARK"]⟩,
    ⟨0x10107, ["aAEGEAN NUMBER ONEc TWOc THREEc FOURc FIVEc SIXc SEVENc EIGHTc NINEc TENc TWENTY",
      "c THIRTYc FORTYc FIFTYc SIXTYc SEVENTYc EIGHTYc NINETYc ONE HUNDREDc TWO HUNDRED",
      "c THREE HUNDREDc FOUR HUNDREDc FIVE HUNDREDc SIX HUNDREDc SEVEN HUNDREDc EIGHT HUNDRED",
      "c NINE HUNDREDc ONE THOUSANDc TWO THOUSANDc THREE THOUSANDc FOUR THOUSANDc FIVE THOUSAND",
      "c SIX THOUSANDc SEVEN THOUSANDc EIGHT THOUSANDc NINE THOUSANDc TEN THOUSAND",
      "c TWENTY THOUSANDc THIRTY THOUSANDc FORTY THOUSANDc FIFTY THOUSANDc SIXTY THOUSAND",
      "c SEVENTY THOUSANDc EIGHTY THOUSANDc NINETY THOUSAND"]⟩,
    ⟨0x10137, ["aAEGEAN WEIGHT BASE UNITc FIRST SUBUNITc SECOND SUBUNITc THIRD SUBUNIT",
      "c FOURTH SUBUNITb DRY MEASURE FIRST SUBUNITb LIQUID MEASURE FIRST SUBUNIT",
      "b MEASURE SECOND SUBUNITc THIRD SUBUNITaGREEK ACROPHONIC ATTIC ONE QUARTERe HALFe DRACHMA",
      "d FIVEd FIFTYd FIVE HUNDREDe THOUSANDd FIFTY THOUSANDd FIVE TALENTSd TEN TALENTS",
      "d FIFTY TALENTSd ONE HUNDRED TALENTSd FIVE HUNDRED TALENTSd ONE THOUSAND TALENTS",
      "d FIVE THOUSAND TALENTSe STATERSd TEN STATERSd FIFTY STATERSd ONE HUNDRED STATERS",
      "d FIVE HUNDRED STATERSd ONE THOUSAND STATERSd TEN THOUSAND STATERSd FIFTY THOUSAND STATERS",
      "d TEN MNASc HERAEUM ONE PLETHRONc THESPIAN ONEc HERMIONIAN ONEc EPIDAUREAN TWO",
      "c THESPIAN TWOc CYRENAIC TWO DRACHMASc EPIDAUREAN TWO DRACHMASc TROEZENIAN FIVEd TEN",
      "e ALTERNATE FORMc HERMIONIAN TENc MESSENIAN TENc THESPIAN TENd THIRTYc TROEZENIAN FIFTY",
      "e ALTERNATE FORMc HERMIONIAN FIFTYc THESPIAN FIFTYd ONE HUNDREDd THREE HUNDRED",
      "c EPIDAUREAN FIVE HUNDREDc TROEZENIAN FIVE HUNDREDc THESPIAN FIVE HUNDRED",
      "c CARYSTIAN FIVE HUNDREDc NAXIAN FIVE HUNDREDc THESPIAN ONE THOUSANDd FIVE THOUSAND",
      "c DELPHIC FIVE MNASc STRATIAN FIFTY MNASb ONE HALF SIGNe ALTERNATE FORMb TWO THIRDS SIGN",
      "b THREE QUARTERS SIGNb YEAR SIGNb TALENT SIGNb DRACHMA SIGNb OBOL SIGNb TWO OBOLS SIGN",
      "b THREE OBOLS SIGNb FOUR OBOLS SIGNb FIVE OBOLS SIGNb METRETES SIGNb KYATHOS BASE SIGN",
      "b LITRA SIGNb OUNKIA SIGNb XESTES SIGNb ARTABE SIGNb AROURA SIGNb GRAMMA SIGN",
      "b TRYBLION BASE SIGNb ZERO SIGNb ONE QUARTER SIGNb SINUSOID SIGNb INDICTION SIGN",
      "aNOMISMA SIGN"]⟩,
    ⟨0x10190, ["aROMAN SEXTANS SIGNb UNCIA SIGNb SEMUNCIA SIGNb SEXTULA SIGNb DIMIDIA SEXTULA SIGN",
      "b SILIQUA SIGNb DENARIUS SIGNb QUINARIUS SIGNb SESTERTIUS SIGNb DUPONDIUS SIGNb AS SIGN",
      "b CENTURIAL SIGNaASCIA SYMBOL"]⟩,
    ⟨0x101A0, ["aGREEK SYMBOL TAU RHO"]⟩,
    ⟨0x101D0, ["aPHAISTOS DISC SIGN PEDESTRIANd PLUMED HEADd TATTOOED HEADd CAPTIVEd CHILDd WOMAN",
      "d HELMETd GAUNTLETd TIARAd ARROWd BOWd SHIELDd CLUBd MANACLESd MATTOCKd SAWd LIDd BOOMERANG",
      "d CARPENTRY PLANEd DOLIUMd COMBd SLINGd COLUMNd BEEHIVEd SHIPd HORNd HIDEd BULLS LEGd CAT",
      "d RAMd EAGLEd DOVEd TUNNYd BEEd PLANE TREEd VINEd PAPYRUSd ROSETTEd LILYd OX BACKd FLUTE",
      "d GRATERd STRAINERd SMALL AXEd WAVY BANDd COMBINING OBLIQUE STROKE"]⟩,
    ⟨0x10280, ["aLYCIAN LETTER Ac Ec Bc BHc Gc Dc Ic Wc Zc THc Jc Kc Qc Lc Mc Nc MMc NNc Uc Pc KK",
      "c Rc Sc Tc TTc ANc ENc Hc X"]⟩,
    ⟨0x102A0, ["aCARIAN LETTER Ac P2c Dc Lc UUUc Rc LDc A2c Qc Bc Mc Oc D2c Tc SHc SH2c Sc C-18c U",
      "c NNc Xc Nc TT2c Pc SSc Ic Ec UUUUc Kc K2c NDc UUc Gc G2c STc ST2c NGc IIc C-39c TTc UUU2",
      "c RRc MBc MB2c MB3c MB4c LD2c E2c UUU3"]⟩,
    ⟨0x102E0, ["aCOPTIC EPACT THOUSANDS MARKc DIGIT ONEd TWOd THREEd FOURd FIVEd SIXd SEVENd EIGHT",
      "d NINEc NUMBER TENd TWENTYd THIRTYd FORTYd FIFTYd SIXTYd SEVENTYd EIGHTYd NINETY",
      "d ONE HUNDREDd TWO HUNDREDd THREE HUNDREDd FOUR HUNDREDd FIVE HUNDREDd SIX HUNDRED",
      "d SEVEN HUNDREDd EIGHT HUNDREDd NINE HUNDRED"]⟩,
    ⟨0x10300, ["aOLD ITALIC LETTER Ad BEd KEd DEd Ed VEd ZEd HEd THEd Id KAd ELd EMd ENd ESHd O",
      "d PEd SHEd KUd ERd ESd TEd Ud EKSd PHEd KHEd EFd ERSd CHEd IId UUd ESSc NUMERAL ONEd FIVE",
      "d TENd FIFTY"]⟩,
    ⟨0x1032D, ["aOLD ITALIC LETTER YEd NORTHERN TSEd SOUTHERN TSEaGOTHIC LETTER AHSAc BAIRKAN",
      "c GIBAc DAGSc AIHVUSc QAIRTHRAc IUJAc HAGLc THIUTHc EISc KUSMAc LAGUSc MANNAc NAUTHSc JER",
      "c URUSc PAIRTHRAc NINETYc RAIDAc SAUILc TEIWSc WINJAc FAIHUc IGGWSc HWAIRc OTHAL",
      "c NINE HUNDRED"]⟩,
    ⟨0x10350, ["aOLD PERMIC LETTER ANd BURd GAId DOId Ed ZHOId DZHOId ZATAd DZITAd Id KOKEd LEI",
      "d MENOEd NENOEd VOOId PEEId REId SIId TAId Ud CHERYd SHOOId SHCHOOId YRYd YERUd Od OOd EF",
      "d HAd TSIUd VERd YERd YERId YATd IEd YUd YAd IAaCOMBINING OLD PERMIC LETTER ANe DOIe ZATA",
      "e NENOEe SII"]⟩,
    ⟨0x10380, ["aUGARITIC LETTER ALPAc BETAc GAMLAc KHAc DELTAc HOc WOc ZETAc HOTAc TETc YODc KAF",
      "c SHINc LAMDAc MEMc DHALc NUNc ZUc SAMKAc AINc PUc SADEc QOPAc RASHAc THANNAc GHAINc TOc I",
      "c Uc SSU"]⟩,
    ⟨0x1039F, ["aUGARITIC WORD DIVIDERaOLD PERSIAN SIGN Ad Id Ud KAd KUd GAd GUd XAd CAd JAd JI",
      "d TAd TUd DAd DId DUd THAd PAd BAd FAd NAd NUd MAd MId MUd YAd VAd VId RAd RUd LAd SAd ZA",
      "d SHAd SSAd HA"]⟩,
    ⟨0x103C8, ["aOLD PERSIAN SIGN AURAMAZDAAe-2d AURAMAZDAAHAd XSHAAYATHIYAd DAHYAAUSHe-2d BAGA",
      "d BUUMISHc WORD DIVIDERc NUMBER ONEd TWOd TENd TWENTYd HUNDRED"]⟩,
    ⟨0x10400, ["aDESERET CAPITAL LETTER LONG Ie Ee Ae AHe Oe OOd SHORT Ie Ee Ae AHe Oe OOd AYd OW",
      "d WUd YEEd Hd PEEd BEEd TEEd DEEd CHEEd JEEd KAYd GAYd EFd VEEd ETHd THEEd ESd ZEEd ESH",
      "d ZHEEd ERd ELd EMd ENd ENGd OId EWb SMALL LETTER LONG Ie Ee Ae AHe Oe OOd SHORT Ie Ee A",
      "e AHe Oe OOd AYd OWd WUd YEEd Hd PEEd BEEd TEEd DEEd CHEEd JEEd KAYd GAYd EFd VEEd ETH",
      "d THEEd ESd ZEEd ESHd ZHEEd ERd ELd EMd ENd ENGd OId EWaSHAVIAN LETTER PEEPc TOTc KICKc FEE",
      "c THIGHc SOc SUREc CHURCHc YEAc HUNGc BIBc DEADc GAGc VOWc THEYc ZOOc MEASUREc JUDGEc WOE",
      "c HA-HAc LOLLc MIMEc IFc EGGc ASHc ADOc ONc WOOLc OUTc AHc ROARc NUNc EATc AGEc ICEc UP",
      "c OAKc OOZEc OILc AWEc AREc ORc AIRc ERRc ARRAYc EARc IANc YEWaOSMANYA LETTER ALEFc BAc TA",
      "c JAc XAc KHAc DEELc RAc SAc SHIINc DHAc CAYNc GAc FAc QAAFc KAAFc LAANc MIINc NUUNc WAW",
      "c HAc YAc Ac Ec Ic Oc Uc AAc EEc OO"]⟩,
    ⟨0x104A0, ["aOSMANYA DIGIT ZEROc ONEc TWOc THREEc FOURc FIVEc SIXc SEVENc EIGHTc NINE"]⟩,
    ⟨0x104B0, ["aOSAGE CAPITAL LETTER Ad AId AINd AHd BRAd CHAd EHCHAd Ed EINd HAd HYAd Id KA",
      "d EHKAd KYAd LAd MAd NAd Od OINd PAd EHPAd SAd SHAd TAd EHTAd TSAd EHTSAd TSHAd DHAd Ud WA",
      "d KHAd GHAd ZAd ZHA"]⟩,
    ⟨0x104D8, ["aOSAGE SMALL LETTER Ad AId AINd AHd BRAd CHAd EHCHAd Ed EINd HAd HYAd Id KAd EHKA",
      "d KYAd LAd MAd NAd Od OINd PAd EHPAd SAd SHAd TAd EHTAd TSAd EHTSAd TSHAd DHAd Ud WAd KHA",
      "d GHAd ZAd ZHA"]⟩,
    ⟨0x10500, ["aELBASAN LETTER Ac BEc CEc CHEc DEc NDEc DHEc EIc Ec FEc GEc GJEc HEc Ic JEc KE",
      "c LEc LLEc MEc NEc NAc NJEc Oc PEc QEc REc RREc SEc SHEc TEc THEc Uc VEc XEc Yc ZEc ZHE",
      "c GHEc GHAMMAc KHE"]⟩,
    ⟨0x10530, ["aCAUCASIAN ALBANIAN LETTER ALTd BETd GIMd DATd EBd ZARLd EYNd ZHILd TASd CHAd YOWD",
      "d ZHAd IRBd SHAd LANd INYAd XEYNd DYANd CARd JHOXd KARd LYITd HEYTd QAYd AORd CHOYd CHI",
      "d CYAYd MAQd QARd NOWCd DZYAYd SHAKd JAYNd ONd TYAYd FAMd DZAYd CHATd PENd GHEYSd RATd SEYK",
      "d VEYZd TIWRd SHOYd IWNd CYAWd CAYNd YAYDd PIWRd KIW"]⟩,
    ⟨0x1056F, ["aCAUCASIAN ALBANIAN CITATION MARKaVITHKUQI CAPITAL LETTER Ad BBEd BEd CEd CHEd DE",
      "d DHEd EId Ed FEd GA"]⟩,
    ⟨0x1057C, ["aVITHKUQI CAPITAL LETTER HAd HHAd Id IJEd JEd KAd LAd LLAd MEd NEd NJEd Od PEd QA",
      "d RE"]⟩,
    ⟨0x1058C, ["aVITHKUQI CAPITAL LETTER SEd SHEd TEd THEd Ud VEd XE"]⟩,
    ⟨0x10594, ["aVITHKUQI CAPITAL LETTER Yd ZE"]⟩,
    ⟨0x10597, ["aVITHKUQI SMALL LETTER Ad BBEd BEd CEd CHEd DEd DHEd EId Ed FEd GA"]⟩,
    ⟨0x105A3, ["aVITHKUQI SMALL LETTER HAd HHAd Id IJEd JEd KAd LAd LLAd MEd NEd NJEd Od PEd QA",
      "d RE"]⟩,
    ⟨0x105B3, ["aVITHKUQI SMALL LETTER SEd SHEd TEd THEd Ud VEd XE"]⟩,
    ⟨0x105BB, ["aVITHKUQI SMALL LETTER Yd ZE"]⟩,
    ⟨0x10600, ["aLINEAR A SIGN AB001d AB002d AB003d AB004d AB005d AB006d AB007d AB008d AB009",
      "d AB010d AB011d AB013d AB016d AB017d AB020d AB021d AB021Fd AB021Md AB022d AB022Fd AB022M",
      "d AB023d AB023Md AB024d AB026d AB027d AB028d A028Bd AB029d AB030d AB031d AB034d AB037",
      "d AB038d AB039d AB040d AB041d AB044d AB045d AB046d AB047d AB048d AB049d AB050d AB051d AB053",
      "d AB054d AB055d AB056d AB057d AB058d AB059d AB060d AB061d AB065d AB066d AB067d AB069d AB070",
      "d AB073d AB074d AB076d AB077d AB078d AB079d AB080d AB081d AB082d AB085d AB086d AB087",
      "d A100-102d AB118d AB120d A120Bd AB122d AB123d AB131Ad AB131Bd A131Cd AB164d AB171d AB180",
      "d AB188d AB191d A301d A302d A303d A304d A305d A306d A307d A308d A309Ad A309Bd A309Cd A310",
      "d A311d A312d A313Ad A313Bd A313Cd A314d A315d A316d A317d A318d A319d A320d A321d A322",
      "d A323d A324d A325d A326d A327d A328d A329d A330d A331d A332d A333d A334d A335d A336d A337",
      "d A338d A339d A340d A341d A342d A343d A344d A345d A346d A347d A348d A349d A350d A351d A352",
      "d A353d A354d A355d A356d A357d A358d A359d A360d A361d A362d A363d A364d A365d A366d A367",
      "d A368d A369d A370d A371d A400-VASd A401-VASd A402-VASd A403-VASd A404-VASd A405-VAS",
      "d A406-VASd A407-VASd A408-VASd A409-VASd A410-VASd A411-VASd A412-VASd A413-VASd A414-VAS",
      "d A415-VASd A416-VASd A417-VASd A418-VASd A501d A502d A503d A504d A505d A506d A508d A509",
      "d A510d A511d A512d A513d A515d A516d A520d A521d A523d A524d A525d A526d A527d A528d A529",
      "d A530d A531d A532d A534d A535d A536d A537d A538d A539d A540d A541d A542d A545d A547d A548",
      "d A549d A550d A551d A552d A553d A554d A555d A556d A557d A559d A563d A564d A565d A566d A568",
      "d A569d A570d A571d A572d A573d A574d A575d A576d A577d A578d A579d A580d A581d A582d A583",
      "d A584d A585d A586d A587d A588d A589d A591d A592d A594d A595d A596d A598d A600d A601d A602",
      "d A603d A604d A606d A608d A609d A610d A611d A612d A613d A614d A615d A616d A617d A618d A619",
      "d A620d A621d A622d A623d A624d A626d A627d A628d A629d A634d A637d A638d A640d A642d A643",
      "d A644d A645d A646d A648d A649d A651d A652d A653d A654d A655d A656d A657d A658d A659d A660",
      "d A661d A662d A663d A664"]⟩,
    ⟨0x10740, ["aLINEAR A SIGN A701 Ad A702 Bd A703 Dd A704 Ed A705 Fd A706 Hd A707 Jd A708 K",
      "d A709 Le-2 L2e-3 L3e-4 L4e-6 L6d A710 Wd A711 Xd A712 Yd A713 OMEGAd A714 ABBd A715 BB",
      "d A717 DDd A726 EYYYd A732 JE"]⟩,
    ⟨0x10760, ["aLINEAR A SIGN A800d A801d A802d A803d A804d A805d A806d A807"]⟩,
    ⟨0x10780, ["aMODIFIER LETTER SMALL CAPITAL AAc SUPERSCRIPT TRIANGULAR COLON",
      "d HALF TRIANGULAR COLONc SMALL AEd CAPITAL Bd B WITH HOOK"]⟩,
    ⟨0x10787, ["aMODIFIER LETTER SMALL DZ DIGRAPHf WITH RETROFLEX HOOKg CURLd DEZH DIGRAPH",
      "d D WITH TAILf HOOKg AND TAILd REVERSED Ed CLOSED REVERSED OPEN Ed FENG DIGRAPHd RAMS HORN",
      "d CAPITAL Gd G WITH HOOKd CAPITAL G WITH HOOKd H WITH STROKEd CAPITAL Hd HENG WITH HOOK",
      "d DOTLESS J WITH STROKE AND HOOKd LS DIGRAPHd LZ DIGRAPHd L WITH BELTd CAPITAL L WITH BELT",
      "d L WITH RETROFLEX HOOK AND BELTd LEZHe WITH RETROFLEX HOOKd TURNED Yf WITH BELT",
      "d O WITH STROKEd CAPITAL OEd CLOSED OMEGAd Qd TURNED R WITH LONG LEGi AND RETROFLEX HOOK",
      "d R WITH TAILf FISHHOOKd CAPITAL Rd TC DIGRAPH WITH CURLd TS DIGRAPHf WITH RETROFLEX HOOK",
      "d TESH DIGRAPHd T WITH RETROFLEX HOOKd V WITH RIGHT HOOK"]⟩,
    ⟨0x107B2, ["aMODIFIER LETTER SMALL CAPITAL Yc GLOTTAL STOP WITH STROKE",
      "c REVERSED GLOTTAL STOP WITH STROKEc BILABIAL CLICKc DENTAL CLICKc LATERAL CLICK",
      "c ALVEOLAR CLICKc RETROFLEX CLICK WITH RETROFLEX HOOKc SMALL S WITH CURL"]⟩,
    ⟨0x10800, ["aCYPRIOT SYLLABLE Ac Ec Ic Oc Uc JA"]⟩,
    ⟨0x10808, ["aCYPRIOT SYLLABLE JO"]⟩,
    ⟨0x1080A, ["aCYPRIOT SYLLABLE KAc KEc KIc KOc KUc LAc LEc LIc LOc LUc MAc MEc MIc MOc MUc NA",
      "c NEc NIc NOc NUc PAc PEc PIc POc PUc RAc REc RIc ROc RUc SAc SEc SIc SOc SUc TAc TEc TI",
      "c TOc TUc WAc WEc WIc WO"]⟩,
    ⟨0x10837, ["aCYPRIOT SYLLABLE XAc XE"]⟩,
    ⟨0x1083C, ["aCYPRIOT SYLLABLE ZA"]⟩,
    ⟨0x1083F, ["aCYPRIOT SYLLABLE ZOaIMPERIAL ARAMAIC LETTER ALEPHd BETHd GIMELd DALETHd HEd WAW",
      "d ZAYINd HETHd TETHd YODHd KAPHd LAMEDHd MEMd NUNd SAMEKHd AYINd PEd SADHEd QOPHd RESH",
      "d SHINd TAW"]⟩,
    ⟨0x10857, ["aIMPERIAL ARAMAIC SECTION SIGNc NUMBER ONEd TWOd THREEd TENd TWENTYd ONE HUNDRED",
      "e THOUSANDd TEN THOUSANDaPALMYRENE LETTER ALEPHc BETHc GIMELc DALETHc HEc WAWc ZAYINc HETH",
      "c TETHc YODHc KAPHc LAMEDHc MEMc FINAL NUNc NUNc SAMEKHc AYINc PEc SADHEc QOPHc RESHc SHIN",
      "c TAWb LEFT-POINTING FLEURONb RIGHT-POINTING FLEURONb NUMBER ONEc TWOc THREEc FOURc FIVE",
      "c TENc TWENTYaNABATAEAN LETTER FINAL ALEPHc ALEPHc FINAL BETHc BETHc GIMELc DALETH",
      "c FINAL HEc HEc WAWc ZAYINc HETHc TETHc FINAL YODHc YODHc FINAL KAPHc KAPHc FINAL LAMEDH",
      "c LAMEDHc FINAL MEMc MEMc FINAL NUNc NUNc SAMEKHc AYINc PEc SADHEc QOPHc RESHc FINAL SHIN",
      "c SHINc TAW"]⟩,
    ⟨0x108A7, ["aNABATAEAN NUMBER ONEc TWOc THREEc FOURb CRUCIFORM NUMBER FOURb NUMBER FIVEc TEN",
      "c TWENTYc ONE HUNDRED"]⟩,
    ⟨0x108E0, ["aHATRAN LETTER ALEPHc BETHc GIMELc DALETH-RESHc HEc WAWc ZAYNc HETHc TETHc YODH",
      "c KAPHc LAMEDHc MEMc NUNc SAMEKHc AYNc PEc SADHEc QOPH"]⟩,
    ⟨0x108F4, ["aHATRAN LETTER SHINc TAW"]⟩,
    ⟨0x108FB, ["aHATRAN NUMBER ONEc FIVEc TENc TWENTYc ONE HUNDREDaPHOENICIAN LETTER ALFc BET",
      "c GAMLc DELTc HEc WAUc ZAIc HETc TETc YODc KAFc LAMDc MEMc NUNc SEMKc AINc PEc SADEc QOF",
      "c ROSHc SHINc TAUb NUMBER ONEc TENc TWENTYc ONE HUNDREDc TWOc THREE"]⟩,
    ⟨0x1091F, ["aPHOENICIAN WORD SEPARATORaLYDIAN LETTER Ac Bc Gc Dc Ec Vc Ic Yc Kc Lc Mc Nc Oc R",
      "c SSc Tc Uc Fc Qc Sc TTc ANc ENc LYc NNc C"]⟩,
    ⟨0x1093F, ["aLYDIAN TRIANGULAR MARK"]⟩,
    ⟨0x10980, ["aMEROITIC HIEROGLYPHIC LETTER Ad Ed Id Od YAd WAd BAe-2d PAd MAd NAe-2d NEe-2d RA",
      "e-2d LAd KHAd HHAd SAe-2d SEd KAd QAd TAe-2d TEe-2d TOd DAc SYMBOL VIDJe-2",
      "b CURSIVE LETTER Ad Ed Id Od YAd WAd BAd PAd MAd NAd NEd RAd LAd KHAd HHAd SAd ARCHAIC SA",
      "d SEd KAd QAd TAd TEd TOd DA"]⟩,
    ⟨0x109BC, ["aMEROITIC CURSIVE FRACTION ELEVEN TWELFTHSd ONE HALFc LOGOGRAM RMTd IMN",
      "c NUMBER ONEd TWOd THREEd FOURd FIVEd SIXd SEVENd EIGHTd NINEd TENd TWENTYd THIRTYd FORTY",
      "d FIFTYd SIXTYd SEVENTY"]⟩,
    ⟨0x109D2, ["aMEROITIC CURSIVE NUMBER ONE HUNDREDd TWO HUNDREDd THREE HUNDREDd FOUR HUNDRED",
      "d FIVE HUNDREDd SIX HUNDREDd SEVEN HUNDREDd EIGHT HUNDREDd NINE HUNDREDd ONE THOUSAND",
      "d TWO THOUSANDd THREE THOUSANDd FOUR THOUSANDd FIVE THOUSANDd SIX THOUSANDd SEVEN THOUSAND",
      "d EIGHT THOUSANDd NINE THOUSANDd TEN THOUSANDd TWENTY THOUSANDd THIRTY THOUSAND",
      "d FORTY THOUSANDd FIFTY THOUSANDd SIXTY THOUSANDd SEVENTY THOUSANDd EIGHTY THOUSAND",
      "d NINETY THOUSANDd ONE HUNDRED THOUSANDd TWO HUNDRED THOUSANDd THREE HUNDRED THOUSAND",
      "d FOUR HUNDRED THOUSANDd FIVE HUNDRED THOUSANDd SIX HUNDRED THOUSAND",
      "d SEVEN HUNDRED THOUSANDd EIGHT HUNDRED THOUSANDd NINE HUNDRED THOUSAND",
      "c FRACTION ONE TWELFTHd TWO TWELFTHSd THREE TWELFTHSd FOUR TWELFTHSd FIVE TWELFTHS",
      "d SIX TWELFTHSd SEVEN TWELFTHSd EIGHT TWELFTHSd NINE TWELFTHSd TEN TWELFTHS",
      "aKHAROSHTHI LETTER Ab VOWEL SIGN Id Ud VOCALIC R"]⟩,
    ⟨0x10A05, ["aKHAROSHTHI VOWEL SIGN Ed O"]⟩,
    ⟨0x10A0C, ["aKHAROSHTHI VOWEL LENGTH MARKb SIGN DOUBLE RING BELOWc ANUSVARAc VISARGA",
      "b LETTER KAc KHAc GAc GHA"]⟩,
    ⟨0x10A15, ["aKHAROSHTHI LETTER CAc CHAc JA"]⟩,
    ⟨0x10A19, ["aKHAROSHTHI LETTER NYAc TTAc TTHAc DDAc DDHAc NNAc TAc THAc DAc DHAc NAc PAc PHA",
      "c BAc BHAc MAc YAc RAc LAc VAc SHAc SSAc SAc ZAc HAc KKAc TTTHAc TTTAc VHA"]⟩,
    ⟨0x10A38, ["aKHAROSHTHI SIGN BAR ABOVEc CAUDAc DOT BELOW"]⟩,
    ⟨0x10A3F, ["aKHAROSHTHI VIRAMAb DIGIT ONEc TWOc THREEc FOURb NUMBER TENc TWENTYc ONE HUNDRED",
      "d THOUSANDb FRACTION ONE HALF"]⟩,
    ⟨0x10A50, ["aKHAROSHTHI PUNCTUATION DOTc SMALL CIRCLEc CIRCLEc CRESCENT BARc MANGALAMc LOTUS",
      "c DANDAc DOUBLE DANDAc LINES"]⟩,
    ⟨0x10A60, ["aOLD SOUTH ARABIAN LETTER HEe LAMEDHe HETHe MEMe QOPHe WAWe SHINe RESHe BETHe TAW",
      "e SATe KAPHe NUNe KHETHe SADHEe SAMEKHe FEe ALEFe AYNe DHADHEe GIMELe DALETHe GHAYNe TETH",
      "e ZAYNe DHALETHe YODHe THAWe THETHd NUMBER ONEe FIFTYd NUMERIC INDICATOR",
      "b NORTH ARABIAN LETTER HEHe LAMe HAHe MEEMe QAFe WAWe ES-2e REHe BEHe TEHe ES-1e KAFe NOON",
      "e KHAHe SADe ES-3e FEHe ALEFe AINe DADe GEEMe DALe GHAINe TAHe ZAINe THALe YEHe THEHe ZAH",
      "d NUMBER ONEe TENe TWENTY"]⟩,
    ⟨0x10AC0, ["aMANICHAEAN LETTER ALEPHc BETHc BHETHc GIMELc GHIMELc DALETHc HEc WAWb SIGN UD",
      "b LETTER ZAYINc ZHAYINc JAYINc JHAYINc HETHc TETHc YODHc KAPHc XAPHc KHAPHc LAMEDHc DHAMEDH",
      "c THAMEDHc MEMc NUNc SAMEKHc AYINc AAYINc PEc FEc SADHEc QOPHc XOPHc QHOPHc RESHc SHIN",
      "c SSHINc TAWb ABBREVIATION MARK ABOVEd BELOW"]⟩,
    ⟨0x10AEB, ["aMANICHAEAN NUMBER ONEc FIVEc TENc TWENTYc ONE HUNDREDb PUNCTUATION STARc FLEURON",
      "c DOUBLE DOT WITHIN DOTc DOT WITHIN DOTdc TWO DOTSc LINE FILLER"]⟩,
    ⟨0x10B00, ["aAVESTAN LETTER Ac AAc AOc AAOc ANc AANc AEc AEEc Ec EEc Oc OOc Ic IIc Uc UUc KE",
      "c XEc XYEc XVEc GEc GGEc GHEc CEc JEc TEc THEc DEc DHEc TTEc PEc FEc BEc BHEc NGEc NGYE",
      "c NGVEc NEc NYEc NNEc MEc HMEc YYEc YEc VEc REc LEc SEc ZEc SHEc ZHEc SHYEc SSHEc HE"]⟩,
    ⟨0x10B39, ["aAVESTAN ABBREVIATION MARKaTINY TWO DOTS OVER ONE DOT PUNCTUATION",
      "aSMALL TWO DOTS OVER ONE DOT PUNCTUATIONaLARGE TWO DOTS OVER ONE DOT PUNCTUATION",
      "b ONE DOT OVER TWO DOTS PUNCTUATIONb TWO RINGS OVER ONE RING PUNCTUATION",
      "b ONE RING OVER TWO RINGS PUNCTUATIONaINSCRIPTIONAL PARTHIAN LETTER ALEPHd BETHd GIMEL",
      "d DALETHd HEd WAWd ZAYINd HETHd TETHd YODHd KAPHd LAMEDHd MEMd NUNd SAMEKHd AYINd PEd SADHE",
      "d QOPHd RESHd SHINd TAW"]⟩,
    ⟨0x10B58, ["aINSCRIPTIONAL PARTHIAN NUMBER ONEd TWOd THREEd FOURd TENd TWENTYd ONE HUNDRED",
      "e THOUSANDb PAHLAVI LETTER ALEPHd BETHd GIMELd DALETHd HEd WAW-AYIN-RESHd ZAYINd HETHd TETH",
      "d YODHd KAPHd LAMEDHd MEM-QOPHd NUNd SAMEKHd PEd SADHEd SHINd TAW"]⟩,
    ⟨0x10B78, ["aINSCRIPTIONAL PAHLAVI NUMBER ONEd TWOd THREEd FOURd TENd TWENTYd ONE HUNDRED",
      "e THOUSANDaPSALTER PAHLAVI LETTER ALEPHd BETHd GIMELd DALETHd HEd WAW-AYIN-RESHd ZAYIN",
      "d HETHd YODHd KAPHd LAMEDHd MEM-QOPHd NUNd SAMEKHd PEd SADHEd SHINd TAW"]⟩,
    ⟨0x10B99, ["aPSALTER PAHLAVI SECTION MARKc TURNED SECTION MARKc FOUR DOTS WITH CROSSf DOT"]⟩,
    ⟨0x10BA9, ["aPSALTER PAHLAVI NUMBER ONEd TWOd THREEd FOURd TENd TWENTYd ONE HUNDRED"]⟩,
    ⟨0x10C00, ["aOLD TURKIC LETTER ORKHON Ad YENISEI Ae AEd ORKHON Id YENISEI Ie Ed ORKHON Oe OE",
      "d YENISEI OEd ORKHON ABd YENISEI ABd ORKHON AEBd YENISEI AEBd ORKHON AGd YENISEI AG",
      "d ORKHON AEGd YENISEI AEGd ORKHON ADd YENISEI ADd ORKHON AEDe EZd YENISEI EZd ORKHON AY",
      "d YENISEI AYd ORKHON AEYd YENISEI AEYd ORKHON AEKd YENISEI AEKd ORKHON OEKd YENISEI OEK",
      "d ORKHON ALd YENISEI ALd ORKHON AELe ELTe EMe ANe AENd YENISEI AENd ORKHON ENTd YENISEI ENT",
      "d ORKHON ENCd YENISEI ENCd ORKHON ENYd YENISEI ENYe ANGd ORKHON ENGd YENISEI AENG",
      "d ORKHON EPe OPe ICe ECd YENISEI ECd ORKHON AQd YENISEI AQd ORKHON IQd YENISEI IQ",
      "d ORKHON OQd YENISEI OQd ORKHON ARd YENISEI ARd ORKHON AERe ASe AESe ASHd YENISEI ASH",
      "d ORKHON ESHd YENISEI ESHd ORKHON ATd YENISEI ATd ORKHON AETd YENISEI AETd ORKHON OT",
      "e BASH"]⟩,
    ⟨0x10C80, ["aOLD HUNGARIAN CAPITAL LETTER Ae AAe EBe AMBe ECe ENCe ECSe EDe ANDe Ee CLOSE E",
      "e EEe EFe EGe EGYe EHe Ie IIe EJe EKe AKe UNKe ELe ELYe EMe ENe ENYe Oe OOe NIKOLSBURG OE",
      "e RUDIMENTA OEe OEEe EPe EMPe ERe SHORT ERe ESe ESZe ETe ENTe ETYe ECHe Ue UU",
      "e NIKOLSBURG UEe RUDIMENTA UEe EVe EZe EZSe ENT-SHAPED SIGNe US"]⟩,
    ⟨0x10CC0, ["aOLD HUNGARIAN SMALL LETTER Ae AAe EBe AMBe ECe ENCe ECSe EDe ANDe Ee CLOSE Ee EE",
      "e EFe EGe EGYe EHe Ie IIe EJe EKe AKe UNKe ELe ELYe EMe ENe ENYe Oe OOe NIKOLSBURG OE",
      "e RUDIMENTA OEe OEEe EPe EMPe ERe SHORT ERe ESe ESZe ETe ENTe ETYe ECHe Ue UU",
      "e NIKOLSBURG UEe RUDIMENTA UEe EVe EZe EZSe ENT-SHAPED SIGNe US"]⟩,
    ⟨0x10CFA, ["aOLD HUNGARIAN NUMBER ONEd FIVEd TENd FIFTYd ONE HUNDREDe THOUSAND",
      "aHANIFI ROHINGYA LETTER Ad BAd PAd TAd TTAd JAd CAd HAd KHAd FAd DAd DDAd RAd RRAd ZAd SA",
      "d SHAd KAd GAd LAd MAd NAd WAd KINNA WAd YAd KINNA YAd NGAd NYAd VAc VOWEL Ad Id Ud Ed O",
      "c MARK SAKINd NA KHONNAc SIGN HARBAHAYd TAHALAd TANAd TASSI"]⟩,
    ⟨0x10D30, ["aHANIFI ROHINGYA DIGIT ZEROd ONEd TWOd THREEd FOURd FIVEd SIXd SEVENd EIGHT",
      "d NINE"]⟩,
    ⟨0x10E60, ["aRUMI DIGIT ONEc TWOc THREEc FOURc FIVEc SIXc SEVENc EIGHTc NINEb NUMBER TEN",
      "c TWENTYc THIRTYc FORTYc FIFTYc SIXTYc SEVENTYc EIGHTYc NINETYc ONE HUNDREDc TWO HUNDRED",
      "c THREE HUNDREDc FOUR HUNDREDc FIVE HUNDREDc SIX HUNDREDc SEVEN HUNDREDc EIGHT HUNDRED",
      "c NINE HUNDREDb FRACTION ONE HALFd QUARTERd THIRDc TWO THIRDS"]⟩,
    ⟨0x10E80, ["aYEZIDI LETTER ELIFc BEc PEc PHEc THEc SEc CIMc CHIMc CHHIMc HHAc XAc DALc ZALc RA",
      "c RHAc ZAc JAc SINc SHINc SADc DADc TAc ZEc EYNc XHEYNc FAc VAd ALTERNATE FORMc QAFc KAF",
      "c KHAFc GAFc LAMc MIMc NUNc UMc WAWc OWc EWc HAYc YOTc ET"]⟩,
    ⟨0x10EAB, ["aYEZIDI COMBINING HAMZA MARKc MADDA MARKb HYPHENATION MARK"]⟩,
    ⟨0x10EB0, ["aYEZIDI LETTER LAM WITH DOT ABOVEc YOT WITH CIRCUMFLEX ABOVE"]⟩,
    ⟨0x10F00, ["aOLD SOGDIAN LETTER ALEPHd FINAL ALEPHd BETHd FINAL BETHd GIMELd HEd FINAL HEd WAW",
      "d ZAYINd HETHd YODHd KAPHd LAMEDHd MEMd NUNd FINAL NUNf WITH VERTICAL TAILd SAMEKHd AYIN",
      "d ALTERNATE AYINd PEd SADHEd FINAL SADHEf WITH VERTICAL TAILd RESH-AYIN-DALETHd SHINd TAW",
      "d FINAL TAWf WITH VERTICAL TAILc NUMBER ONEd TWOd THREEd FOURd FIVEd TENd TWENTYd THIRTY",
      "d ONE HUNDREDc FRACTION ONE HALFc LIGATURE AYIN-DALETH"]⟩,
    ⟨0x10F30, ["aSOGDIAN LETTER ALEPHc BETHc GIMELc HEc WAWc ZAYINc HETHc YODHc KAPHc LAMEDHc MEM",
      "c NUNc SAMEKHc AYINc PEc SADHEc RESH-AYINc SHINc TAWc FETHc LESHb INDEPENDENT SHIN",
      "b COMBINING DOT BELOWc TWO DOTS BELOWc DOT ABOVEc TWO DOTS ABOVEc CURVE ABOVEd BELOW",
      "c HOOK ABOVEd BELOWc LONG HOOK BELOWc RESH BELOWc STROKE BELOWb NUMBER ONEc TENc TWENTY",
      "c ONE HUNDREDb PUNCTUATION TWO VERTICAL BARSf WITH DOTSc CIRCLE WITH DOT",
      "c TWO CIRCLES WITH DOTSc HALF CIRCLE WITH DOT"]⟩,
    ⟨0x10F70, ["aOLD UYGHUR LETTER ALEPHd BETHd GIMEL-HETHd WAWd ZAYINd FINAL HETHd YODHd KAPH",
      "d LAMEDHd MEMd NUNd SAMEKHd PEd SADHEd RESHd SHINd TAWd LESHc COMBINING DOT ABOVEe BELOW",
      "d TWO DOTS ABOVEf BELOWc PUNCTUATION BARd TWO BARSe DOTSd FOUR DOTS"]⟩,
    ⟨0x10FB0, ["aCHORASMIAN LETTER ALEPHc SMALL ALEPHc BETHc GIMELc DALETHc HEc WAWc CURLED WAW",
      "c ZAYINc HETHc YODHc KAPHc LAMEDHc MEMc NUNc SAMEKHc AYINc PEc RESHc SHINc TAWb NUMBER ONE",
      "c TWOc THREEc FOURc TENc TWENTYc ONE HUNDRED"]⟩,
    ⟨0x10FE0, ["aELYMAIC LETTER ALEPHc BETHc GIMELc DALETHc HEc WAWc ZAYINc HETHc TETHc YODHc KAPH",
      "c LAMEDHc MEMc NUNc SAMEKHc AYINc PEc SADHEc QOPHc RESHc SHINc TAWb LIGATURE ZAYIN-YODH"]⟩,
    ⟨0x11000, ["aBRAHMI SIGN CANDRABINDUc ANUSVARAc VISARGAc JIHVAMULIYAc UPADHMANIYAb LETTER A",
      "c AAc Ic IIc Uc UUc VOCALIC Rd RRd Ld LLc Ec AIc Oc AUc KAc KHAc GAc GHAc NGAc CAc CHAc JA",
      "c JHAc NYAc TTAc TTHAc DDAc DDHAc NNAc TAc THAc DAc DHAc NAc PAc PHAc BAc BHAc MAc YAc RA",
      "c LAc VAc SHAc SSAc SAc HAc LLAc OLD TAMIL LLLAe RRAe NNNAb VOWEL SIGN AAd BHATTIPROLU AA",
      "d Id IId Ud UUd VOCALIC Re RRe Le LLd Ed AId Od AUb VIRAMAb DANDAb DOUBLE DANDA",
      "b PUNCTUATION DOTc DOUBLE DOTc LINEc CRESCENT BARc LOTUS"]⟩,
    ⟨0x11052, ["aBRAHMI NUMBER ONEc TWOc THREEc FOURc FIVEc SIXc SEVENc EIGHTc NINEc TENc TWENTY",
      "c THIRTYc FORTYc FIFTYc SIXTYc SEVENTYc EIGHTYc NINETYc ONE HUNDREDd THOUSANDb DIGIT ZERO",
      "c ONEc TWOc THREEc FOURc FIVEc SIXc SEVENc EIGHTc NINEb SIGN OLD TAMIL VIRAMA",
      "b LETTER OLD TAMIL SHORT Ef Ob VOWEL SIGN OLD TAMIL SHORT Eg Ob LETTER OLD TAMIL LLA"]⟩,
    ⟨0x1107F, ["aBRAHMI NUMBER JOINERaKAITHI SIGN CANDRABINDUc ANUSVARAc VISARGAb LETTER Ac AAc I",
      "c IIc Uc UUc Ec AIc Oc AUc KAc KHAc GAc GHAc NGAc CAc CHAc JAc JHAc NYAc TTAc TTHAc DDA",
      "c DDDHAc DDHAc RHAc NNAc TAc THAc DAc DHAc NAc PAc PHAc BAc BHAc MAc YAc RAc LAc VAc SHA",
      "c SSAc SAc HAb VOWEL SIGN AAd Id IId Ud UUd Ed AId Od AUb SIGN VIRAMAc NUKTA",
      "b ABBREVIATION SIGNb ENUMERATION SIGNb NUMBER SIGNb SECTION MARKb DOUBLE SECTION MARK",
      "b DANDAb DOUBLE DANDAb VOWEL SIGN VOCALIC R"]⟩,
    ⟨0x110CD, ["aKAITHI NUMBER SIGN ABOVE"]⟩,
    ⟨0x110D0, ["aSORA SOMPENG LETTER SAHd TAHd BAHd CAHd DAHd GAHd MAHd NGAHd LAHd NAHd VAHd PAH",
      "d YAHd RAHd HAHd KAHd JAHd NYAHd AHd EEHd IHd UHd OHd EHd MAE"]⟩,
    ⟨0x110F0, ["aSORA SOMPENG DIGIT ZEROd ONEd TWOd THREEd FOURd FIVEd SIXd SEVENd EIGHTd NINE"]⟩,
    ⟨0x11100, ["aCHAKMA SIGN CANDRABINDUc ANUSVARAc VISARGAb LETTER AAc Ic Uc Ec KAAc KHAAc GAA",
      "c GHAAc NGAAc CAAc CHAAc JAAc JHAAc NYAAc TTAAc TTHAAc DDAAc DDHAAc NNAAc TAAc THAAc DAA",
      "c DHAAc NAAc PAAc PHAAc BAAc BHAAc MAAc YYAAc YAAc RAAc LAAc WAAc SAAc HAAb VOWEL SIGN Ad I",
      "d IId Ud UUd Ed AId Od AUd OIb O MARKb AU MARKb VIRAMAb MAAYYAA"]⟩,
    ⟨0x11136, ["aCHAKMA DIGIT ZEROc ONEc TWOc THREEc FOURc FIVEc SIXc SEVENc EIGHTc NINE",
      "b SECTION MARKb DANDAb DOUBLE DANDAb QUESTION MARKb LETTER LHAAb VOWEL SIGN AAd EI",
      "b LETTER VAA"]⟩,
    ⟨0x11150, ["aMAHAJANI LETTER Ac Ic Uc Ec Oc KAc KHAc GAc GHAc CAc CHAc JAc JHAc NYAc TTAc TTHA",
      "c DDAc DDHAc NNAc TAc THAc DAc DHAc NAc PAc PHAc BAc BHAc MAc RAc LAc VAc SAc HAc RRA",
      "b SIGN NUKTAb ABBREVIATION SIGNb SECTION MARKb LIGATURE SHRI"]⟩,
    ⟨0x11180, ["aSHARADA SIGN CANDRABINDUc ANUSVARAc VISARGAb LETTER Ac AAc Ic IIc Uc UU",
      "c VOCALIC Rd RRd Ld LLc Ec AIc Oc AUc KAc KHAc GAc GHAc NGAc CAc CHAc JAc JHAc NYAc TTA",
      "c TTHAc DDAc DDHAc NNAc TAc THAc DAc DHAc NAc PAc PHAc BAc BHAc MAc YAc RAc LAc LLAc VA",
      "c SHAc SSAc SAc HAb VOWEL SIGN AAd Id IId Ud UUd VOCALIC Re RRe Le LLd Ed AId Od AU",
      "b SIGN VIRAMAc AVAGRAHAc JIHVAMULIYAc UPADHMANIYAb OMb DANDAb DOUBLE DANDA",
      "b ABBREVIATION SIGNb SEPARATORb SANDHI MARKb SIGN NUKTAb VOWEL MODIFIER MARK",
      "b EXTRA SHORT VOWEL MARKb SUTRA MARKb VOWEL SIGN PRISHTHAMATRA Eb SIGN INVERTED CANDRABINDU",
      "b DIGIT ZEROc ONEc TWOc THREEc FOURc FIVEc SIXc SEVENc EIGHTc NINEb EKAMb SIGN SIDDHAM",
      "b HEADSTROKEb CONTINUATION SIGNb SECTION MARK-1d-2"]⟩,
    ⟨0x111E1, ["aSINHALA ARCHAIC DIGIT ONEd TWOd THREEd FOURd FIVEd SIXd SEVENd EIGHTd NINE",
      "c NUMBER TENd TWENTYd THIRTYd FORTYd FIFTYd SIXTYd SEVENTYd EIGHTYd NINETYd ONE HUNDRED",
      "e THOUSAND"]⟩,
    ⟨0x11200, ["aKHOJKI LETTER Ac AAc Ic Uc Ec AIc Oc AUc KAc KHAc GAc GGAc GHAc NGAc CAc CHAc JA",
      "c JJA"]⟩,
    ⟨0x11213, ["aKHOJKI LETTER NYAc TTAc TTHAc DDAc DDHAc NNAc TAc THAc DAc DDDAc DHAc NAc PAc PHA",
      "c BAc BBAc BHAc MAc YAc RAc LAc VAc SAc HAc LLAb VOWEL SIGN AAd Id IId Ud Ed AId Od AU",
      "b SIGN ANUSVARAc VIRAMAc NUKTAc SHADDAb DANDAb DOUBLE DANDAb WORD SEPARATORb SECTION MARK",
      "b DOUBLE SECTION MARKb ABBREVIATION SIGNb SIGN SUKUN"]⟩,
    ⟨0x11280, ["aMULTANI LETTER Ac Ic Uc Ec KAc KHAc GA"]⟩,
    ⟨0x11288, ["aMULTANI LETTER GHA"]⟩,
    ⟨0x1128A, ["aMULTANI LETTER CAc CHAc JAc JJA"]⟩,
    ⟨0x1128F, ["aMULTANI LETTER NYAc TTAc TTHAc DDAc DDDAc DDHAc NNAc TAc THAc DAc DHAc NAc PA",
      "c PHAc BA"]⟩,
    ⟨0x1129F, ["aMULTANI LETTER BHAc MAc YAc RAc LAc VAc SAc HAc RRAc RHAb SECTION MARK"]⟩,
    ⟨0x112B0, ["aKHUDAWADI LETTER Ac AAc Ic IIc Uc UUc Ec AIc Oc AUc KAc KHAc GAc GGAc GHAc NGA",
      "c CAc CHAc JAc JJAc JHAc NYAc TTAc TTHAc DDAc DDDAc RRAc DDHAc NNAc TAc THAc DAc DHAc NA",
      "c PAc PHAc BAc BBAc BHAc MAc YAc RAc LAc VAc SHAc SAc HAb SIGN ANUSVARAb VOWEL SIGN AAd I",
      "d IId Ud UUd Ed AId Od AUb SIGN NUKTAc VIRAMA"]⟩,
    ⟨0x112F0, ["aKHUDAWADI DIGIT ZEROc ONEc TWOc THREEc FOURc FIVEc SIXc SEVENc EIGHTc NINE"]⟩,
    ⟨0x11300, ["aGRANTHA SIGN COMBINING ANUSVARA ABOVEc CANDRABINDUc ANUSVARAc VISARGA"]⟩,
    ⟨0x11305, ["aGRANTHA LETTER Ac AAc Ic IIc Uc UUc VOCALIC Rd L"]⟩,
    ⟨0x1130F, ["aGRANTHA LETTER EEc AI"]⟩,
    ⟨0x11313, ["aGRANTHA LETTER OOc AUc KAc KHAc GAc GHAc NGAc CAc CHAc JAc JHAc NYAc TTAc TTHA",
      "c DDAc DDHAc NNAc TAc THAc DAc DHAc NA"]⟩,
    ⟨0x1132A, ["aGRANTHA LETTER PAc PHAc BAc BHAc MAc YAc RA"]⟩,
    ⟨0x11332, ["aGRANTHA LETTER LAc LLA"]⟩,
    ⟨0x11335, ["aGRANTHA LETTER VAc SHAc SSAc SAc HA"]⟩,
    ⟨0x1133B, ["aCOMBINING BINDU BELOWaGRANTHA SIGN NUKTAc AVAGRAHAb VOWEL SIGN AAd Id IId Ud UU",
      "d VOCALIC Re RR"]⟩,
    ⟨0x11347, ["aGRANTHA VOWEL SIGN EEd AI"]⟩,
    ⟨0x1134B, ["aGRANTHA VOWEL SIGN OOd AUb SIGN VIRAMA"]⟩,
    ⟨0x11350, ["aGRANTHA OM"]⟩,
    ⟨0x11357, ["aGRANTHA AU LENGTH MARK"]⟩,
    ⟨0x1135D, ["aGRANTHA SIGN PLUTAb LETTER VEDIC ANUSVARAd DOUBLE ANUSVARAc VOCALIC RRd LL",
      "b VOWEL SIGN VOCALIC Le LL"]⟩,
    ⟨0x11366, ["aCOMBINING GRANTHA DIGIT ZEROd ONEd TWOd THREEd FOURd FIVEd SIX"]⟩,
    ⟨0x11370, ["aCOMBINING GRANTHA LETTER Ad KAd NAd VId PA"]⟩,
    ⟨0x11400, ["aNEWA LETTER Ac AAc Ic IIc Uc UUc VOCALIC Rd RRd Ld LLc Ec AIc Oc AUc KAc KHAc GA",
      "c GHAc NGAc NGHAc CAc CHAc JAc JHAc NYAc NYHAc TTAc TTHAc DDAc DDHAc NNAc TAc THAc DAc DHA",
      "c NAc NHAc PAc PHAc BAc BHAc MAc MHAc YAc RAc RHAc LAc LHAc WAc SHAc SSAc SAc HA",
      "b VOWEL SIGN AAd Id IId Ud UUd VOCALIC Re RRe Le LLd Ed AId Od AUb SIGN VIRAMAc CANDRABINDU",
      "c ANUSVARAc VISARGAc NUKTAc AVAGRAHAc FINAL ANUSVARAb OMb SIDDHIb DANDAb DOUBLE DANDA",
      "b COMMAb GAP FILLERb ABBREVIATION SIGNb DIGIT ZEROc ONEc TWOc THREEc FOURc FIVEc SIXc SEVEN",
      "c EIGHTc NINEb DOUBLE COMMAb PLACEHOLDER MARK"]⟩,
    ⟨0x1145D, ["aNEWA INSERTION SIGNb SANDHI MARKb LETTER VEDIC ANUSVARAb SIGN JIHVAMULIYA",
      "c UPADHMANIYA"]⟩,
    ⟨0x11480, ["aTIRHUTA ANJIb LETTER Ac AAc Ic IIc Uc UUc VOCALIC Rd RRd Ld LLc Ec AIc Oc AUc KA",
      "c KHAc GAc GHAc NGAc CAc CHAc JAc JHAc NYAc TTAc TTHAc DDAc DDHAc NNAc TAc THAc DAc DHAc NA",
      "c PAc PHAc BAc BHAc MAc YAc RAc LAc VAc SHAc SSAc SAc HAb VOWEL SIGN AAd Id IId Ud UU",
      "d VOCALIC Re RRe Le LLd Ed SHORT Ed AId Od SHORT Od AUb SIGN CANDRABINDUc ANUSVARAc VISARGA",
      "c VIRAMAc NUKTAc AVAGRAHAb GVANGb ABBREVIATION SIGNb OM"]⟩,
    ⟨0x114D0, ["aTIRHUTA DIGIT ZEROc ONEc TWOc THREEc FOURc FIVEc SIXc SEVENc EIGHTc NINE"]⟩,
    ⟨0x11580, ["aSIDDHAM LETTER Ac AAc Ic IIc Uc UUc VOCALIC Rd RRd Ld LLc Ec AIc Oc AUc KAc KHA",
      "c GAc GHAc NGAc CAc CHAc JAc JHAc NYAc TTAc TTHAc DDAc DDHAc NNAc TAc THAc DAc DHAc NAc PA",
      "c PHAc BAc BHAc MAc YAc RAc LAc VAc SHAc SSAc SAc HAb VOWEL SIGN AAd Id IId Ud UU",
      "d VOCALIC Re RR"]⟩,
    ⟨0x115B8, ["aSIDDHAM VOWEL SIGN Ed AId Od AUb SIGN CANDRABINDUc ANUSVARAc VISARGAc VIRAMA",
      "c NUKTAc SIDDHAMb DANDAb DOUBLE DANDAb SEPARATOR DOTc BARb REPETITION MARK-1d-2d-3",
      "b END OF TEXT MARKb SECTION MARK WITH TRIDENT AND U-SHAPED ORNAMENTSg DOTTED CRESCENTS",
      "e RAYS AND DOTTED CRESCENTSh DOUBLE CRESCENTSh TRIPLE CRESCENTSd DOUBLE RINGf WITH RAYS",
      "d WITH DOUBLE CRESCENTSe TRIPLE CRESCENTSe QUADRUPLE CRESCENTSe SEPTUPLE CRESCENTS",
      "e CIRCLES AND RAYSg TWO ENCLOSURESg FOUR ENCLOSURESb LETTER THREE-CIRCLE ALTERNATE I",
      "c TWO-CIRCLE ALTERNATE If IIc ALTERNATE Ub VOWEL SIGN ALTERNATE Ue UU"]⟩,
    ⟨0x11600, ["aMODI LETTER Ac AAc Ic IIc Uc UUc VOCALIC Rd RRd Ld LLc Ec AIc Oc AUc KAc KHAc GA",
      "c GHAc NGAc CAc CHAc JAc JHAc NYAc TTAc TTHAc DDAc DDHAc NNAc TAc THAc DAc DHAc NAc PAc PHA",
      "c BAc BHAc MAc YAc RAc LAc VAc SHAc SSAc SAc HAc LLAb VOWEL SIGN AAd Id IId Ud UU",
      "d VOCALIC Re RRe Le LLd Ed AId Od AUb SIGN ANUSVARAc VISARGAc VIRAMAc ARDHACANDRAb DANDA",
      "b DOUBLE DANDAb ABBREVIATION SIGNb SIGN HUVA"]⟩,
    ⟨0x11650, ["aMODI DIGIT ZEROc ONEc TWOc THREEc FOURc FIVEc SIXc SEVENc EIGHTc NINE"]⟩,
    ⟨0x11660, ["aMONGOLIAN BIRGA WITH ORNAMENTb ROTATED BIRGAb DOUBLE BIRGA WITH ORNAMENT",
      "b TRIPLE BIRGA WITH ORNAMENTb BIRGA WITH DOUBLE ORNAMENTb ROTATED BIRGA WITH ORNAMENT",
      "e DOUBLE ORNAMENTb INVERTED BIRGAd WITH DOUBLE ORNAMENTb SWIRL BIRGAd WITH ORNAMENT",
      "e DOUBLE ORNAMENTb TURNED SWIRL BIRGA WITH DOUBLE ORNAMENT"]⟩,
    ⟨0x11680, ["aTAKRI LETTER Ac AAc Ic IIc Uc UUc Ec AIc Oc AUc KAc KHAc GAc GHAc NGAc CAc CHA",
      "c JAc JHAc NYAc TTAc TTHAc DDAc DDHAc NNAc TAc THAc DAc DHAc NAc PAc PHAc BAc BHAc MAc YA",
      "c RAc LAc VAc SHAc SAc HAc RRAb SIGN ANUSVARAc VISARGAb VOWEL SIGN AAd Id IId Ud UUd Ed AI",
      "d Od AUb SIGN VIRAMAc NUKTAb LETTER ARCHAIC KHAb ABBREVIATION SIGN"]⟩,
    ⟨0x116C0, ["aTAKRI DIGIT ZEROc ONEc TWOc THREEc FOURc FIVEc SIXc SEVENc EIGHTc NINE"]⟩,
    ⟨0x11700, ["aAHOM LETTER KAc KHAc NGAc NAc TAc ALTERNATE TAc PAc PHAc BAc MAc JAc CHAc THAc RA",
      "c LAc SAc NYAc HAc Ac DAc DHAc GAc ALTERNATE GAc GHAc BHAc JHAc ALTERNATE BA"]⟩,
    ⟨0x1171D, ["aAHOM CONSONANT SIGN MEDIAL LAe RAe LIGATING RAb VOWEL SIGN Ad AAd Id IId Ud UUd E",
      "d AWd Od AId AMb SIGN KILLER"]⟩,
    ⟨0x11730, ["aAHOM DIGIT ZEROc ONEc TWOc THREEc FOURc FIVEc SIXc SEVENc EIGHTc NINEb NUMBER TEN",
      "c TWENTYb SIGN SMALL SECTIONc SECTIONc RULAIb SYMBOL VIb LETTER CAc TTAc TTHAc DDAc DDHA",
      "c NNAc LLA"]⟩,
    ⟨0x11800, ["aDOGRA LETTER Ac AAc Ic IIc Uc UUc Ec AIc Oc AUc KAc KHAc GAc GHAc NGAc CAc CHA",
      "c JAc JHAc NYAc TTAc TTHAc DDAc DDHAc NNAc TAc THAc DAc DHAc NAc PAc PHAc BAc BHAc MAc YA",
      "c RAc LAc VAc SHAc SSAc SAc HAc RRAb VOWEL SIGN AAd Id IId Ud UUd VOCALIC Re RRd Ed AId O",
      "d AUb SIGN ANUSVARAc VISARGAc VIRAMAc NUKTAb ABBREVIATION SIGN"]⟩,
    ⟨0x118A0, ["aWARANG CITI CAPITAL LETTER NGAAe Ae WIe YUe YAe YOe IIe UUe Ee Oe ANGe GAe KO",
      "e ENYe YUJe UCe ENNe ODDe TTEe NUNGe DAe ATe AMe BUe PUe HIYOe HOLOe HORRe HARe SSUUe SII",
      "e VIYOc SMALL LETTER NGAAe Ae WIe YUe YAe YOe IIe UUe Ee Oe ANGe GAe KOe ENYe YUJe UCe ENN",
      "e ODDe TTEe NUNGe DAe ATe AMe BUe PUe HIYOe HOLOe HORRe HARe SSUUe SIIe VIYOc DIGIT ZERO",
      "d ONEd TWOd THREEd FOURd FIVEd SIXd SEVENd EIGHTd NINEc NUMBER TENd TWENTYd THIRTYd FORTY",
      "d FIFTYd SIXTYd SEVENTYd EIGHTYd NINETY"]⟩,
    ⟨0x118FF, ["aWARANG CITI OMaDIVES AKURU LETTER Ad AAd Id IId Ud UUd E"]⟩,
    ⟨0x11909, ["aDIVES AKURU LETTER O"]⟩,
    ⟨0x1190C, ["aDIVES AKURU LETTER KAd KHAd GAd GHAd NGAd CAd CHAd JA"]⟩,
    ⟨0x11915, ["aDIVES AKURU LETTER NYAd TTA"]⟩,
    ⟨0x11918, ["aDIVES AKURU LETTER DDAd DDHAd NNAd TAd THAd DAd DHAd NAd PAd PHAd BAd BHAd MAd YA",
      "d YYAd RAd LAd VAd SHAd SSAd SAd HAd LLAd ZAc VOWEL SIGN AAe Ie IIe Ue UUe E"]⟩,
    ⟨0x11937, ["aDIVES AKURU VOWEL SIGN AIe O"]⟩,
    ⟨0x1193B, ["aDIVES AKURU SIGN ANUSVARAd CANDRABINDUd HALANTAc VIRAMAc PREFIXED NASAL SIGN",
      "c MEDIAL YAc INITIAL RAc MEDIAL RAc SIGN NUKTAc DOUBLE DANDAc GAP FILLER",
      "c END OF TEXT MARK"]⟩,
    ⟨0x11950, ["aDIVES AKURU DIGIT ZEROd ONEd TWOd THREEd FOURd FIVEd SIXd SEVENd EIGHTd NINE"]⟩,
    ⟨0x119A0, ["aNANDINAGARI LETTER Ac AAc Ic IIc Uc UUc VOCALIC Rd RR"]⟩,
    ⟨0x119AA, ["aNANDINAGARI LETTER Ec AIc Oc AUc KAc KHAc GAc GHAc NGAc CAc CHAc JAc JHAc NYA",
      "c TTAc TTHAc DDAc DDHAc NNAc TAc THAc DAc DHAc NAc PAc PHAc BAc BHAc MAc YAc RAc LAc VA",
      "c SHAc SSAc SAc HAc LLAc RRAb VOWEL SIGN AAd Id IId Ud UUd VOCALIC Re RR"]⟩,
    ⟨0x119DA, ["aNANDINAGARI VOWEL SIGN Ed AId Od AUb SIGN ANUSVARAc VISARGAc VIRAMAc AVAGRAHA",
      "c SIDDHAMb HEADSTROKEb VOWEL SIGN PRISHTHAMATRA E"]⟩,
    ⟨0x11A00, ["aZANABAZAR SQUARE LETTER Ac VOWEL SIGN Ie UEe Ue Ee OEe Oe AIe AUe REVERSED I",
      "d LENGTH MARKc LETTER KAd KHAd GAd GHAd NGAd CAd CHAd JAd NYAd TTAd TTHAd DDAd DDHAd NNA",
      "d TAd THAd DAd DHAd NAd PAd PHAd BAd BHAd MAd TSAd TSHAd DZAd DZHAd ZHAd ZAd -Ad YAd RAd LA",
      "d VAd SHAd SSAd SAd HAd KSSAc FINAL CONSONANT MARKc SIGN VIRAMAd CANDRABINDUe WITH ORNAMENT",
      "d CANDRA WITH ORNAMENTd ANUSVARAd VISARGAc CLUSTER-INITIAL LETTER RAd-FINAL LETTER YAf RA",
      "f LAf VAc INITIAL HEAD MARKc CLOSING HEAD MARKc MARK TSHEGd SHADd DOUBLE SHADd LONG TSHEG",
      "c INITIAL DOUBLE-LINED HEAD MARKc CLOSING DOUBLE-LINED HEAD MARKc SUBJOINER"]⟩,
    ⟨0x11A50, ["aSOYOMBO LETTER Ab VOWEL SIGN Id UEd Ud Ed Od OEd AId AUd VOCALIC Re L",
      "c LENGTH MARKb LETTER KAc KHAc GAc GHAc NGAc CAc CHAc JAc JHAc NYAc TTAc TTHAc DDAc DDHA",
      "c NNAc TAc THAc DAc DHAc NAc PAc PHAc BAc BHAc MAc TSAc TSHAc DZAc ZHAc ZAc -Ac YAc RAc LA",
      "c VAc SHAc SSAc SAc HAc KSSAb SIGN JIHVAMULIYAc UPADHMANIYAb CLUSTER-INITIAL LETTER RAe LA",
      "e SHAe SAb FINAL CONSONANT SIGN Ge Ke NGe De Ne Be Me Re Le SHe Se -Ab SIGN ANUSVARA",
      "c VISARGAb GEMINATION MARKb SUBJOINERb MARK TSHEGc SHADc DOUBLE SHADc PLUTA",
      "b HEAD MARK WITH MOON AND SUN AND TRIPLE FLAMEi FLAMEhb TERMINAL MARK-1d-2"]⟩,
    ⟨0x11AB0, ["aCANADIAN SYLLABICS NATTILIK HId HIId HOd HOOd HAd HAAd SHRId SHRIId SHROd SHROO",
      "d SHRAd SHRAAc SPEc SPIc SPOc SPAaPAU CIN HAU LETTER PAe KAe LAe MAe DAe ZAe VAe NGAe HA",
      "e GAe KHAe SAe BAe CAe TAe THAe NAe PHAe RAe FAe CHAe Ae Ee Ie Oe Ue UAe IAe FINAL Pf Kf T",
      "f Mf Nf Lf Wf NGf Yd RISING TONE LONGfd SANDHI GLOTTAL STOPd RISING TONE LONG FINALf FINAL",
      "d SANDHI GLOTTAL STOP FINALe TONE LONGff LONG FINALf FINALd MID-LEVEL TONE",
      "d GLOTTAL STOP VARIANTd MID-LEVEL TONE LONG FINALg FINALd LOW-FALLING TONE LONGg",
      "d GLOTTAL STOPd LOW-FALLING TONE LONG FINALg FINALd GLOTTAL STOP FINAL"]⟩,
    ⟨0x11C00, ["aBHAIKSUKI LETTER Ac AAc Ic IIc Uc UUc VOCALIC Rd RRd L"]⟩,
    ⟨0x11C0A, ["aBHAIKSUKI LETTER Ec AIc Oc AUc KAc KHAc GAc GHAc NGAc CAc CHAc JAc JHAc NYAc TTA",
      "c TTHAc DDAc DDHAc NNAc TAc THAc DAc DHAc NAc PAc PHAc BAc BHAc MAc YAc RAc LAc VAc SHA",
      "c SSAc SAc HAb VOWEL SIGN AAd Id IId Ud UUd VOCALIC Re RRe L"]⟩,
    ⟨0x11C38, ["aBHAIKSUKI VOWEL SIGN Ed AId Od AUb SIGN CANDRABINDUc ANUSVARAc VISARGAc VIRAMA",
      "c AVAGRAHAb DANDAb DOUBLE DANDAb WORD SEPARATORb GAP FILLER-1d-2"]⟩,
    ⟨0x11C50, ["aBHAIKSUKI DIGIT ZEROc ONEc TWOc THREEc FOURc FIVEc SIXc SEVENc EIGHTc NINE",
      "b NUMBER ONEc TWOc THREEc FOURc FIVEc SIXc SEVENc EIGHTc NINEc TENc TWENTYc THIRTYc FORTY",
      "c FIFTYc SIXTYc SEVENTYc EIGHTYc NINETYb HUNDREDS UNIT MARK"]⟩,
    ⟨0x11C70, ["aMARCHEN HEAD MARKb MARK SHADb LETTER KAc KHAc GAc NGAc CAc CHAc JAc NYAc TAc THA",
      "c DAc NAc PAc PHAc BAc MAc TSAc TSHAc DZAc WAc ZHAc ZAc -Ac YAc RAc LAc SHAc SAc HAc A"]⟩,
    ⟨0x11C92, ["aMARCHEN SUBJOINED LETTER KAd KHAd GAd NGAd CAd CHAd JAd NYAd TAd THAd DAd NAd PA",
      "d PHAd BAd MAd TSAd TSHAd DZAd WAd ZHAd ZA"]⟩,
    ⟨0x11CA9, ["aMARCHEN SUBJOINED LETTER YAd RAd LAd SHAd SAd HAd Ab VOWEL SIGN AAd Id Ud Ed O",
      "b SIGN ANUSVARAc CANDRABINDU"]⟩,
    ⟨0x11D00, ["aMASARAM GONDI LETTER Ad AAd Id IId Ud UUd E"]⟩,
    ⟨0x11D08, ["aMASARAM GONDI LETTER AId O"]⟩,
    ⟨0x11D0B, ["aMASARAM GONDI LETTER AUd KAd KHAd GAd GHAd NGAd CAd CHAd JAd JHAd NYAd TTAd TTHA",
      "d DDAd DDHAd NNAd TAd THAd DAd DHAd NAd PAd PHAd BAd BHAd MAd YAd RAd LAd VAd SHAd SSAd SA",
      "d HAd LLAd KSSAd JNYAd TRAc VOWEL SIGN AAe Ie IIe Ue UUe VOCALIC R"]⟩,
    ⟨0x11D3A, ["aMASARAM GONDI VOWEL SIGN E"]⟩,
    ⟨0x11D3C, ["aMASARAM GONDI VOWEL SIGN AIe O"]⟩,
    ⟨0x11D3F, ["aMASARAM GONDI VOWEL SIGN AUc SIGN ANUSVARAd VISARGAd NUKTAd CANDRAd HALANTA",
      "c VIRAMAc REPHAc RA-KARA"]⟩,
    ⟨0x11D50, ["aMASARAM GONDI DIGIT ZEROd ONEd TWOd THREEd FOURd FIVEd SIXd SEVENd EIGHTd NINE"]⟩,
    ⟨0x11D60, ["aGUNJALA GONDI LETTER Ad AAd Id IId Ud UU"]⟩,
    ⟨0x11D67, ["aGUNJALA GONDI LETTER EEd AI"]⟩,
    ⟨0x11D6A, ["aGUNJALA GONDI LETTER OOd AUd YAd VAd BAd BHAd MAd KAd KHAd TAd THAd LAd GAd GHA",
      "d DAd DHAd NAd CAd CHAd TTAd TTHAd LLAd JAd JHAd DDAd DDHAd NGAd PAd PHAd HAd RAd SA",
      "c VOWEL SIGN AAe Ie IIe Ue UU"]⟩,
    ⟨0x11D90, ["aGUNJALA GONDI VOWEL SIGN EEe AI"]⟩,
    ⟨0x11D93, ["aGUNJALA GONDI VOWEL SIGN OOe AUc SIGN ANUSVARAd VISARGAc VIRAMAc OM"]⟩,
    ⟨0x11DA0, ["aGUNJALA GONDI DIGIT ZEROd ONEd TWOd THREEd FOURd FIVEd SIXd SEVENd EIGHTd NINE"]⟩,
    ⟨0x11EE0, ["aMAKASAR LETTER KAc GAc NGAc PAc BAc MAc TAc DAc NAc CAc JAc NYAc YAc RAc LAc VA",
      "c SAc Ab ANGKAb VOWEL SIGN Id Ud Ed Ob PASSIMBANGb END OF SECTION"]⟩,
    ⟨0x11FB0, ["aLISU LETTER YHA"]⟩,
    ⟨0x11FC0, ["aTAMIL FRACTION ONE THREE-HUNDRED-AND-TWENTIETHd ONE-HUNDRED-AND-SIXTIETH",
      "d EIGHTIETHd SIXTY-FOURTHd FORTIETHd THIRTY-SECONDc THREE EIGHTIETHSd SIXTY-FOURTHS",
      "c ONE TWENTIETHd SIXTEENTH-1e-2d TENTHd EIGHTHc THREE TWENTIETHSd SIXTEENTHSc ONE FIFTH",
      "d QUARTERd HALF-1e-2c THREE QUARTERSc DOWNSCALING FACTOR KIIZHb SIGN NELc CEVITUc AAZHAAKKU",
      "c UZHAKKUc MUUVUZHAKKUc KURUNIc PATHAKKUc MUKKURUNIc KAACUc PANAMc PONc VARAAKANc PAARAM",
      "c KUZHIc VELIb WET CULTIVATION SIGNb DRY CULTIVATION SIGNb LAND SIGNb SALT PAN SIGN",
      "b TRADITIONAL CREDIT SIGNc NUMBER SIGNb CURRENT SIGNb AND ODD SIGNb SPENT SIGNb TOTAL SIGN",
      "b IN POSSESSION SIGNb STARTING FROM SIGNb SIGN MUTHALIYAc VAKAIYARAA"]⟩,
    ⟨0x11FFF, ["aTAMIL PUNCTUATION END OF TEXT"]⟩
  ]

end PromptContract.Text

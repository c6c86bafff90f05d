import PromptContract.Libraries.Text.CharacterName.Run

/-!
# Names of characters: syllables

The names of syllables and further letters, from Burmese to accented Greek:
the characters from U+1000 to U+1FFF, by runs.
-/

namespace PromptContract.Text

/-- The names of syllables and further letters, from Burmese to accented Greek. -/
def syllableNames : Array NameRun :=
  #[
    ⟨0x1000, ["aMYANMAR LETTER KAc KHAc GAc GHAc NGAc CAc CHAc JAc JHAc NYAc NNYAc TTAc TTHAc DDA",
      "c DDHAc NNAc TAc THAc DAc DHAc NAc PAc PHAc BAc BHAc MAc YAc RAc LAc WAc SAc HAc LLAc A",
      "c SHAN Ac Ic IIc Uc UUc Ec MON Ec Oc AUb VOWEL SIGN TALL AAd AAd Id IId Ud UUd Ed AI",
      "d MON IIe Od E ABOVEb SIGN ANUSVARAc DOT BELOWc VISARGAc VIRAMAc ASAT",
      "b CONSONANT SIGN MEDIAL YAe RAe WAe HAb LETTER GREAT SAb DIGIT ZEROc ONEc TWOc THREEc FOUR",
      "c FIVEc SIXc SEVENc EIGHTc NINEb SIGN LITTLE SECTIONc SECTIONb SYMBOL LOCATIVEc COMPLETED",
      "c AFOREMENTIONEDc GENITIVEb LETTER SHAc SSAc VOCALIC Rd RRd Ld LLb VOWEL SIGN VOCALIC Re RR",
      "e Le LLb LETTER MON NGAd JHAd BBAd BBEb CONSONANT SIGN MON MEDIAL NAf MAf LA",
      "b LETTER SGAW KAREN SHAb VOWEL SIGN SGAW KAREN EUb TONE MARK SGAW KAREN HATHIf KE PHO",
      "b LETTER WESTERN PWO KAREN THAf PWAb VOWEL SIGN WESTERN PWO KAREN EUg UE",
      "b SIGN WESTERN PWO KAREN TONE-1g-2g-3g-4g-5b LETTER EASTERN PWO KAREN NNAf YWAf GHWA",
      "b VOWEL SIGN GEBA KAREN Id KAYAH OEe Ue EEb LETTER SHAN KAd KHAd GAd CAd ZAd NYAd DAd NA",
      "d PHAd FAd BAd THAd HAb CONSONANT SIGN SHAN MEDIAL WAb VOWEL SIGN SHAN AAe Ef ABOVE",
      "e FINAL Yb SIGN SHAN TONE-2e-3e-5e-6d COUNCIL TONE-2f-3e EMPHATIC TONE",
      "b LETTER RUMAI PALAUNG FAb SIGN RUMAI PALAUNG TONE-5b SHAN DIGIT ZEROd ONEd TWOd THREE",
      "d FOURd FIVEd SIXd SEVENd EIGHTd NINEb SIGN KHAMTI TONE-1e-3b VOWEL SIGN AITON Ae AI",
      "b SYMBOL SHAN ONEd EXCLAMATIONaGEORGIAN CAPITAL LETTER ANd BANd GANd DONd ENd VINd ZENd TAN",
      "d INd KANd LASd MANd NARd ONd PARd ZHARd RAEd SANd TARd UNd PHARd KHARd GHANd QARd SHIN",
      "d CHINd CANd JILd CILd CHARd XANd JHANd HAEd HEd HIEd WEd HARd HOE"]⟩,
    ⟨0x10C7, ["aGEORGIAN CAPITAL LETTER YN"]⟩,
    ⟨0x10CD, ["aGEORGIAN CAPITAL LETTER AEN"]⟩,
    ⟨0x10D0, ["aGEORGIAN LETTER ANc BANc GANc DONc ENc VINc ZENc TANc INc KANc LASc MANc NARc ON",
      "c PARc ZHARc RAEc SANc TARc UNc PHARc KHARc GHANc QARc SHINc CHINc CANc JILc CILc CHARc XAN",
      "c JHANc HAEc HEc HIEc WEc HARc HOEc FIc YNc ELIFIc TURNED GANc AINb PARAGRAPH SEPARATOR",
      "aMODIFIER LETTER GEORGIAN NARaGEORGIAN LETTER AENc HARD SIGNc LABIAL SIGN",
      "aHANGUL CHOSEONG KIYEOKc SSANGKIYEOKc NIEUNc TIKEUTc SSANGTIKEUTc RIEULc MIEUMc PIEUP",
      "c SSANGPIEUPc SIOSc SSANGSIOSc IEUNGc CIEUCc SSANGCIEUCc CHIEUCHc KHIEUKHc THIEUTHc PHIEUPH",
      "c HIEUHc NIEUN-KIYEOKc SSANGNIEUNc NIEUN-TIKEUTd-PIEUPc TIKEUT-KIYEOKc RIEUL-NIEUN",
      "c SSANGRIEULc RIEUL-HIEUHc KAPYEOUNRIEULc MIEUM-PIEUPc KAPYEOUNMIEUMc PIEUP-KIYEOKd-NIEUN",
      "d-TIKEUTd-SIOSe-KIYEOKe-TIKEUTe-PIEUPd-SSANGSIOSd-SIOS-CIEUCd-CIEUCd-CHIEUCHd-THIEUTH",
      "d-PHIEUPHc KAPYEOUNPIEUPc KAPYEOUNSSANGPIEUPc SIOS-KIYEOKd-NIEUNd-TIKEUTd-RIEULd-MIEUM",
      "d-PIEUPe-KIYEOKd-SSANGSIOSd-IEUNGd-CIEUCd-CHIEUCHd-KHIEUKHd-THIEUTHd-PHIEUPHd-HIEUH",
      "c CHITUEUMSIOSc CHITUEUMSSANGSIOSc CEONGCHIEUMSIOSc CEONGCHIEUMSSANGSIOSc PANSIOS",
      "c IEUNG-KIYEOKd-TIKEUTd-MIEUMd-PIEUPd-SIOSd-PANSIOSc SSANGIEUNGc IEUNG-CIEUCd-CHIEUCH",
      "d-THIEUTHd-PHIEUPHc YESIEUNGc CIEUC-IEUNGc CHITUEUMCIEUCc CHITUEUMSSANGCIEUC",
      "c CEONGCHIEUMCIEUCc CEONGCHIEUMSSANGCIEUCc CHIEUCH-KHIEUKHd-HIEUHc CHITUEUMCHIEUCH",
      "c CEONGCHIEUMCHIEUCHc PHIEUPH-PIEUPc KAPYEOUNPHIEUPHc SSANGHIEUHc YEORINHIEUH",
      "c KIYEOK-TIKEUTc NIEUN-SIOSd-CIEUCd-HIEUHc TIKEUT-RIEULc FILLERb JUNGSEONG FILLERc Ac AE",
      "c YAc YAEc EOc Ec YEOc YEc Oc WAc WAEc OEc YOc Uc WEOc WEc WIc YUc EUc YIc Ic A-Od-Uc YA-O",
      "d-YOc EO-Od-Ud-EUc YEO-Od-Uc O-EOd-Ed-YEd-Od-Uc YO-YAd-YAEd-YEOd-Od-Ic U-Ad-AEd-EO-EUd-YE",
      "d-Uc YU-Ad-EOd-Ed-YEOd-YEd-Ud-Ic EU-Ud-EUc YI-Uc I-Ad-YAd-Od-Ud-EUd-ARAEAc ARAEAd-EOd-Ud-I",
      "c SSANGARAEAc A-EUc YA-Uc YEO-YAc O-YAd-YAEb JONGSEONG KIYEOKc SSANGKIYEOKc KIYEOK-SIOS",
      "c NIEUNd-CIEUCd-HIEUHc TIKEUTc RIEULd-KIYEOKd-MIEUMd-PIEUPd-SIOSd-THIEUTHd-PHIEUPHd-HIEUH",
      "c MIEUMc PIEUPd-SIOSc SIOSc SSANGSIOSc IEUNGc CIEUCc CHIEUCHc KHIEUKHc THIEUTHc PHIEUPH",
      "c HIEUHc KIYEOK-RIEULd-SIOS-KIYEOKc NIEUN-KIYEOKd-TIKEUTd-SIOSd-PANSIOSd-THIEUTH",
      "c TIKEUT-KIYEOKd-RIEULc RIEUL-KIYEOK-SIOSd-NIEUNd-TIKEUTe-HIEUHc SSANGRIEUL",
      "c RIEUL-MIEUM-KIYEOKe-SIOSd-PIEUP-SIOSe-HIEUHd-KAPYEOUNPIEUPd-SSANGSIOSd-PANSIOSd-KHIEUKH",
      "d-YEORINHIEUHc MIEUM-KIYEOKd-RIEULd-PIEUPd-SIOSd-SSANGSIOSd-PANSIOSd-CHIEUCHd-HIEUH",
      "c KAPYEOUNMIEUMc PIEUP-RIEULd-PHIEUPHd-HIEUHc KAPYEOUNPIEUPc SIOS-KIYEOKd-TIKEUTd-RIEUL",
      "d-PIEUPc PANSIOSc IEUNG-KIYEOKd-SSANGKIYEOKc SSANGIEUNGc IEUNG-KHIEUKHc YESIEUNGd-SIOS",
      "d-PANSIOSc PHIEUPH-PIEUPc KAPYEOUNPHIEUPHc HIEUH-NIEUNd-RIEULd-MIEUMd-PIEUPc YEORINHIEUH",
      "c KIYEOK-NIEUNd-PIEUPd-CHIEUCHd-KHIEUKHd-HIEUHc SSANGNIEUNaETHIOPIC SYLLABLE HAc HUc HI",
      "c HAAc HEEc HEc HOc HOAc LAc LUc LIc LAAc LEEc LEc LOc LWAc HHAc HHUc HHIc HHAAc HHEEc HHE",
      "c HHOc HHWAc MAc MUc MIc MAAc MEEc MEc MOc MWAc SZAc SZUc SZIc SZAAc SZEEc SZEc SZOc SZWA",
      "c RAc RUc RIc RAAc REEc REc ROc RWAc SAc SUc SIc SAAc SEEc SEc SOc SWAc SHAc SHUc SHIc SHAA",
      "c SHEEc SHEc SHOc SHWAc QAc QUc QIc QAAc QEEc QEc QOc QOAc QWA"]⟩,
    ⟨0x124A, ["aETHIOPIC SYLLABLE QWIc QWAAc QWEEc QWE"]⟩,
    ⟨0x1250, ["aETHIOPIC SYLLABLE QHAc QHUc QHIc QHAAc QHEEc QHEc QHO"]⟩,
    ⟨0x1258, ["aETHIOPIC SYLLABLE QHWA"]⟩,
    ⟨0x125A, ["aETHIOPIC SYLLABLE QHWIc QHWAAc QHWEEc QHWE"]⟩,
    ⟨0x1260, ["aETHIOPIC SYLLABLE BAc BUc BIc BAAc BEEc BEc BOc BWAc VAc VUc VIc VAAc VEEc VEc VO",
      "c VWAc TAc TUc TIc TAAc TEEc TEc TOc TWAc CAc CUc CIc CAAc CEEc CEc COc CWAc XAc XUc XI",
      "c XAAc XEEc XEc XOc XOAc XWA"]⟩,
    ⟨0x128A, ["aETHIOPIC SYLLABLE XWIc XWAAc XWEEc XWE"]⟩,
    ⟨0x1290, ["aETHIOPIC SYLLABLE NAc NUc NIc NAAc NEEc NEc NOc NWAc NYAc NYUc NYIc NYAAc NYEE",
      "c NYEc NYOc NYWAc GLOTTAL Ad Ud Id AAd EEd Ed Od WAc KAc KUc KIc KAAc KEEc KEc KOc KOA",
      "c KWA"]⟩,
    ⟨0x12B2, ["aETHIOPIC SYLLABLE KWIc KWAAc KWEEc KWE"]⟩,
    ⟨0x12B8, ["aETHIOPIC SYLLABLE KXAc KXUc KXIc KXAAc KXEEc KXEc KXO"]⟩,
    ⟨0x12C0, ["aETHIOPIC SYLLABLE KXWA"]⟩,
    ⟨0x12C2, ["aETHIOPIC SYLLABLE KXWIc KXWAAc KXWEEc KXWE"]⟩,
    ⟨0x12C8, ["aETHIOPIC SYLLABLE WAc WUc WIc WAAc WEEc WEc WOc WOAc PHARYNGEAL Ad Ud Id AAd EEd E",
      "d O"]⟩,
    ⟨0x12D8, ["aETHIOPIC SYLLABLE ZAc ZUc ZIc ZAAc ZEEc ZEc ZOc ZWAc ZHAc ZHUc ZHIc ZHAAc ZHEE",
      "c ZHEc ZHOc ZHWAc YAc YUc YIc YAAc YEEc YEc YOc YOAc DAc DUc DIc DAAc DEEc DEc DOc DWAc DDA",
      "c DDUc DDIc DDAAc DDEEc DDEc DDOc DDWAc JAc JUc JIc JAAc JEEc JEc JOc JWAc GAc GUc GIc GAA",
      "c GEEc GEc GOc GOAc GWA"]⟩,
    ⟨0x1312, ["aETHIOPIC SYLLABLE GWIc GWAAc GWEEc GWE"]⟩,
    ⟨0x1318, ["aETHIOPIC SYLLABLE GGAc GGUc GGIc GGAAc GGEEc GGEc GGOc GGWAAc THAc THUc THIc THAA",
      "c THEEc THEc THOc THWAc CHAc CHUc CHIc CHAAc CHEEc CHEc CHOc CHWAc PHAc PHUc PHIc PHAA",
      "c PHEEc PHEc PHOc PHWAc TSAc TSUc TSIc TSAAc TSEEc TSEc TSOc TSWAc TZAc TZUc TZIc TZAA",
      "c TZEEc TZEc TZOc TZOAc FAc FUc FIc FAAc FEEc FEc FOc FWAc PAc PUc PIc PAAc PEEc PEc PO",
      "c PWAc RYAc MYAc FYA"]⟩,
    ⟨0x135D, ["aETHIOPIC COMBINING GEMINATION AND VOWEL LENGTH MARKc VOWEL LENGTH MARK",
      "c GEMINATION MARKb SECTION MARKb WORDSPACEb FULL STOPb COMMAb SEMICOLONb COLON",
      "b PREFACE COLONb QUESTION MARKb PARAGRAPH SEPARATORb DIGIT ONEc TWOc THREEc FOURc FIVEc SIX",
      "c SEVENc EIGHTc NINEb NUMBER TENc TWENTYc THIRTYc FORTYc FIFTYc SIXTYc SEVENTYc EIGHTY",
      "c NINETYc HUNDREDc TEN THOUSAND"]⟩,
    ⟨0x1380, ["aETHIOPIC SYLLABLE SEBATBEIT MWAc MWIc MWEEc MWEc SEBATBEIT BWAc BWIc BWEEc BWE",
      "c SEBATBEIT FWAc FWIc FWEEc FWEc SEBATBEIT PWAc PWIc PWEEc PWEb TONAL MARK YIZETd DERET",
      "d RIKRIKd SHORT RIKRIKd DIFATd KENATd CHIRETd HIDETd DERET-HIDETd KURT"]⟩,
    ⟨0x13A0, ["aCHEROKEE LETTER Ac Ec Ic Oc Uc Vc GAc KAc GEc GIc GOc GUc GVc HAc HEc HIc HOc HU",
      "c HVc LAc LEc LIc LOc LUc LVc MAc MEc MIc MOc MUc NAc HNAc NAHc NEc NIc NOc NUc NVc QUA",
      "c QUEc QUIc QUOc QUUc QUVc SAc Sc SEc SIc SOc SUc SVc DAc TAc DEc TEc DIc TIc DOc DUc DV",
      "c DLAc TLAc TLEc TLIc TLOc TLUc TLVc TSAc TSEc TSIc TSOc TSUc TSVc WAc WEc WIc WOc WUc WV",
      "c YAc YEc YIc YOc YUc YVc MV"]⟩,
    ⟨0x13F8, ["aCHEROKEE SMALL LETTER YEd YId YOd YUd YVd MV"]⟩,
    ⟨0x1400, ["aCANADIAN SYLLABICS HYPHENc Ec AAIc Ic IIc Oc OOc Y-CREE OOc CARRIER EEd Ic Ac AA",
      "c WEc WEST-CREE WEc WIc WEST-CREE WIc WIIc WEST-CREE WIIc WOc WEST-CREE WOc WOO",
      "c WEST-CREE WOOc NASKAPI WOOc WAc WEST-CREE WAc WAAc WEST-CREE WAAc NASKAPI WAAc AI",
      "c Y-CREE Wc GLOTTAL STOPc FINAL ACUTEd GRAVEd BOTTOM HALF RINGd TOP HALF RING",
      "d RIGHT HALF RINGd RINGd DOUBLE ACUTEe SHORT VERTICAL STROKESd MIDDLE DOT",
      "d SHORT HORIZONTAL STROKEd PLUSd DOWN TACKc ENc INc ONc ANc PEc PAAIc PIc PIIc POc POO",
      "c Y-CREE POOc CARRIER HEEd HIc PAc PAAc PWEc WEST-CREE PWEc PWIc WEST-CREE PWIc PWII",
      "c WEST-CREE PWIIc PWOc WEST-CREE PWOc PWOOc WEST-CREE PWOOc PWAc WEST-CREE PWAc PWAA",
      "c WEST-CREE PWAAc Y-CREE PWAAc Pc WEST-CREE Pc CARRIER Hc TEc TAAIc TIc TIIc TOc TOO",
      "c Y-CREE TOOc CARRIER DEEd DIc TAc TAAc TWEc WEST-CREE TWEc TWIc WEST-CREE TWIc TWII",
      "c WEST-CREE TWIIc TWOc WEST-CREE TWOc TWOOc WEST-CREE TWOOc TWAc WEST-CREE TWAc TWAA",
      "c WEST-CREE TWAAc NASKAPI TWAAc Tc TTEc TTIc TTOc TTAc KEc KAAIc KIc KIIc KOc KOO",
      "c Y-CREE KOOc KAc KAAc KWEc WEST-CREE KWEc KWIc WEST-CREE KWIc KWIIc WEST-CREE KWIIc KWO",
      "c WEST-CREE KWOc KWOOc WEST-CREE KWOOc KWAc WEST-CREE KWAc KWAAc WEST-CREE KWAA",
      "c NASKAPI KWAAc Kc KWc SOUTH-SLAVEY KEHe KIHe KOHe KAHc CEc CAAIc CIc CIIc COc COO",
      "c Y-CREE COOc CAc CAAc CWEc WEST-CREE CWEc CWIc WEST-CREE CWIc CWIIc WEST-CREE CWIIc CWO",
      "c WEST-CREE CWOc CWOOc WEST-CREE CWOOc CWAc WEST-CREE CWAc CWAAc WEST-CREE CWAA",
      "c NASKAPI CWAAc Cc SAYISI THc MEc MAAIc MIc MIIc MOc MOOc Y-CREE MOOc MAc MAAc MWE",
      "c WEST-CREE MWEc MWIc WEST-CREE MWIc MWIIc WEST-CREE MWIIc MWOc WEST-CREE MWOc MWOO",
      "c WEST-CREE MWOOc MWAc WEST-CREE MWAc MWAAc WEST-CREE MWAAc NASKAPI MWAAc Mc WEST-CREE M",
      "c MHc ATHAPASCAN Mc SAYISI Mc NEc NAAIc NIc NIIc NOc NOOc Y-CREE NOOc NAc NAAc NWE",
      "c WEST-CREE NWEc NWAc WEST-CREE NWAc NWAAc WEST-CREE NWAAc NASKAPI NWAAc Nc CARRIER NGc NH",
      "c LEc LAAIc LIc LIIc LOc LOOc Y-CREE LOOc LAc LAAc LWEc WEST-CREE LWEc LWIc WEST-CREE LWI",
      "c LWIIc WEST-CREE LWIIc LWOc WEST-CREE LWOc LWOOc WEST-CREE LWOOc LWAc WEST-CREE LWAc LWAA",
      "c WEST-CREE LWAAc Lc WEST-CREE Lc MEDIAL Lc SEc SAAIc SIc SIIc SOc SOOc Y-CREE SOOc SAc SAA",
      "c SWEc WEST-CREE SWEc SWIc WEST-CREE SWIc SWIIc WEST-CREE SWIIc SWOc WEST-CREE SWOc SWOO",
      "c WEST-CREE SWOOc SWAc WEST-CREE SWAc SWAAc WEST-CREE SWAAc NASKAPI SWAAc Sc ATHAPASCAN S",
      "c SWc BLACKFOOT Sc MOOSE-CREE SKc NASKAPI SKWd S-Wd SPWAd STWAd SKWAd SCWAc SHEc SHIc SHII",
      "c SHOc SHOOc SHAc SHAAc SHWEc WEST-CREE SHWEc SHWIc WEST-CREE SHWIc SHWIIc WEST-CREE SHWII",
      "c SHWOc WEST-CREE SHWOc SHWOOc WEST-CREE SHWOOc SHWAc WEST-CREE SHWAc SHWAA",
      "c WEST-CREE SHWAAc SHc YEc YAAIc YIc YIIc YOc YOOc Y-CREE YOOc YAc YAAc YWEc WEST-CREE YWE",
      "c YWIc WEST-CREE YWIc YWIIc WEST-CREE YWIIc YWOc WEST-CREE YWOc YWOOc WEST-CREE YWOOc YWA",
      "c WEST-CREE YWAc YWAAc WEST-CREE YWAAc NASKAPI YWAAc Yc BIBLE-CREE Yc WEST-CREE Y",
      "c SAYISI YIc REc R-CREE REc WEST-CREE LEc RAAIc RIc RIIc ROc ROOc WEST-CREE LOc RAc RAA",
      "c WEST-CREE LAc RWAAc WEST-CREE RWAAc Rc WEST-CREE Rc MEDIAL Rc FEc FAAIc FIc FIIc FOc FOO",
      "c FAc FAAc FWAAc WEST-CREE FWAAc Fc THEc N-CREE THEc THIc N-CREE THIc THIIc N-CREE THII",
      "c THOc THOOc THAc THAAc THWAAc WEST-CREE THWAAc THc TTHEc TTHIc TTHOc TTHAc TTHc TYEc TYI",
      "c TYOc TYAc NUNAVIK HEd HId HIId HOd HOOd HAd HAAd Hc NUNAVUT Hc HKc QAAIc QIc QIIc QOc QOO",
      "c QAc QAAc Qc TLHEc TLHIc TLHOc TLHAc WEST-CREE REe RIe ROe RAc NGAAIc NGIc NGIIc NGOc NGOO",
      "c NGAc NGAAc NGc NNGc SAYISI SHEd SHId SHOd SHAc WOODS-CREE THEe THIe THOe THAe THc LHI",
      "c LHIIc LHOc LHOOc LHAc LHAAc LHc TH-CREE THEe THIe THIIe THOe THOOe THAe THAAe TH",
      "c AIVILIK Bc BLACKFOOT Ed Id Od Ad WEd WId WOd WAd NEd NId NOd NAd KEd KId KOd KA",
      "c SAYISI HEd HId HOd HAc CARRIER GHUd GHOd GHEd GHEEd GHId GHAd RUd ROd REd REEd RId RAd WU",
      "d WOd WEd WEEd WId WAd HWUd HWOd HWEd HWEEd HWId HWAd THUd THOd THEd THEEd THId THAd TTU",
      "d TTOd TTEd TTEEd TTId TTAd PUd POd PEd PEEd PId PAd Pd GUd GOd GEd GEEd GId GAd KHUd KHO",
      "d KHEd KHEEd KHId KHAd KKUd KKOd KKEd KKEEd KKId KKAd KKd NUd NOd NEd NEEd NId NAd MUd MO",
      "d MEd MEEd MId MAd YUd YOd YEd YEEd YId YAd JUc SAYISI JUc CARRIER JOd JEd JEEd JI",
      "c SAYISI JIc CARRIER JAd JJUd JJOd JJEd JJEEd JJId JJAd LUd LOd LEd LEEd LId LAd DLUd DLO",
      "d DLEd DLEEd DLId DLAd LHUd LHOd LHEd LHEEd LHId LHAd TLHUd TLHOd TLHEd TLHEEd TLHId TLHA",
      "d TLUd TLOd TLEd TLEEd TLId TLAd ZUd ZOd ZEd ZEEd ZId ZAd Zd INITIAL Zd DZUd DZOd DZEd DZEE",
      "d DZId DZAd SUd SOd SEd SEEd SId SAd SHUd SHOd SHEd SHEEd SHId SHAd SHd TSUd TSOd TSEd TSEE",
      "d TSId TSAd CHUd CHOd CHEd CHEEd CHId CHAd TTSUd TTSOd TTSEd TTSEEd TTSId TTSAc CHI SIGN",
      "c FULL STOPc QAIc NGAIc NNGIc NNGIIc NNGOc NNGOOc NNGAc NNGAAc WOODS-CREE THWEEe THWI",
      "e THWIIe THWOe THWOOe THWAe THWAAe FINAL THc BLACKFOOT WaOGHAM SPACE MARKb LETTER BEITH",
      "c LUISc FEARNc SAILc NIONc UATHc DAIRc TINNEc COLLc CEIRTc MUINc GORTc NGEADALc STRAIF",
      "c RUISc AILMc ONNc URc EADHADHc IODHADHc EABHADHc ORc UILLEANNc IFINc EAMHANCHOLLc PEITH",
      "b FEATHER MARKb REVERSED FEATHER MARK"]⟩,
    ⟨0x16A0, ["aRUNIC LETTER FEHU FEOH FE Fc Vc URUZ UR Uc YRc Yc Wc THURISAZ THURS THORNc ETH",
      "c ANSUZ Ac OS Oc AC Ac AESCc LONG-BRANCH-OSS Oc SHORT-TWIG-OSS Oc Oc OEc ON",
      "c RAIDO RAD REID Rc KAUNAc CENc KAUN Kc Gc ENGc GEBO GYFU Gc GARc WUNJO WYNN Wc HAGLAZ H",
      "c HAEGL Hc LONG-BRANCH-HAGALL Hc SHORT-TWIG-HAGALL Hc NAUDIZ NYD NAUD Nc SHORT-TWIG-NAUD N",
      "c DOTTED-Nc ISAZ IS ISS Ic Ec JERAN Jc GERc LONG-BRANCH-AR AEc SHORT-TWIG-AR Ac IWAZ EOH",
      "c PERTHO PEORTH Pc ALGIZ EOLHXc SOWILO Sc SIGEL LONG-BRANCH-SOL Sc SHORT-TWIG-SOL Sc Cc Z",
      "c TIWAZ TIR TYR Tc SHORT-TWIG-TYR Tc Dc BERKANAN BEORC BJARKAN Bc SHORT-TWIG-BJARKAN B",
      "c DOTTED-Pc OPEN-Pc EHWAZ EH Ec MANNAZ MAN Mc LONG-BRANCH-MADR Mc SHORT-TWIG-MADR M",
      "c LAUKAZ LAGU LOGR Lc DOTTED-Lc INGWAZc INGc DAGAZ DAEG Dc OTHALAN ETHEL Oc EARc IOR",
      "c CWEORTHc CALCc CEALCc STANc LONG-BRANCH-YRc SHORT-TWIG-YRc ICELANDIC-YRc Qc X",
      "b SINGLE PUNCTUATIONb MULTIPLE PUNCTUATIONb CROSS PUNCTUATIONb ARLAUG SYMBOL",
      "b TVIMADUR SYMBOLb BELGTHOR SYMBOLb LETTER Kc SHc OOc FRANKS CASKET OSe ISe EHe ACe AESC"]⟩,
    ⟨0x1700, ["aTAGALOG LETTER Ac Ic Uc KAc GAc NGAc TAc DAc NAc PAc BAc MAc YAc RAc LAc WAc SA",
      "c HAb VOWEL SIGN Id Ub SIGN VIRAMAc PAMUDPOD"]⟩,
    ⟨0x171F, ["aTAGALOG LETTER ARCHAIC RAaHANUNOO LETTER Ac Ic Uc KAc GAc NGAc TAc DAc NAc PAc BA",
      "c MAc YAc RAc LAc WAc SAc HAb VOWEL SIGN Id Ub SIGN PAMUDPODaPHILIPPINE SINGLE PUNCTUATION",
      "b DOUBLE PUNCTUATION"]⟩,
    ⟨0x1740, ["aBUHID LETTER Ac Ic Uc KAc GAc NGAc TAc DAc NAc PAc BAc MAc YAc RAc LAc WAc SAc HA",
      "b VOWEL SIGN Id U"]⟩,
    ⟨0x1760, ["aTAGBANWA LETTER Ac Ic Uc KAc GAc NGAc TAc DAc NAc PAc BAc MAc YA"]⟩,
    ⟨0x176E, ["aTAGBANWA LETTER LAc WAc SA"]⟩,
    ⟨0x1772, ["aTAGBANWA VOWEL SIGN Id U"]⟩,
    ⟨0x1780, ["aKHMER LETTER KAc KHAc KOc KHOc NGOc CAc CHAc COc CHOc NYOc DAc TTHAc DOc TTHOc NNO",
      "c TAc THAc TOc THOc NOc BAc PHAc POc PHOc MOc YOc ROc LOc VOc SHAc SSOc SAc HAc LAc QA",
      "b INDEPENDENT VOWEL QAQd QAAd QId QIId QUd QUKd QUUd QUUVd RYd RYYd LYd LYYd QEd QAI",
      "d QOO TYPE ONEf TWOd QAUb VOWEL INHERENT AQd AAc SIGN AAd Id IId Yd YYd Ud UUd UAd OEd YA",
      "d IEd Ed AEd AId OOd AUb SIGN NIKAHITc REAHMUKc YUUKALEAPINTUc MUUSIKATOANc TRIISAPc BANTOC",
      "c ROBATc TOANDAKHIATc KAKABATc AHSDAc SAMYOK SANNYAc VIRIAMc COENGc BATHAMASATc KHAN",
      "c BARIYOOSANc CAMNUC PII KUUHc LEK TOOc BEYYALc PHNAEK MUANc KOOMUUTb CURRENCY SYMBOL RIEL",
      "b SIGN AVAKRAHASANYAc ATTHACAN"]⟩,
    ⟨0x17E0, ["aKHMER DIGIT ZEROc ONEc TWOc THREEc FOURc FIVEc SIXc SEVENc EIGHTc NINE"]⟩,
    ⟨0x17F0, ["aKHMER SYMBOL LEK ATTAK SONe MUOYe PIIe BEIe BUONe PRAMf-MUOYf-PIIf-BEIf-BUON"]⟩,
    ⟨0x1800, ["aMONGOLIAN BIRGAb ELLIPSISb COMMAb FULL STOPb COLONb FOUR DOTSb TODO SOFT HYPHEN",
      "b SIBE SYLLABLE BOUNDARY MARKERb MANCHU COMMAc FULL STOPb NIRUGU",
      "b FREE VARIATION SELECTOR ONEe TWOe THREEb VOWEL SEPARATORb FREE VARIATION SELECTOR FOUR",
      "b DIGIT ZEROc ONEc TWOc THREEc FOURc FIVEc SIXc SEVENc EIGHTc NINE"]⟩,
    ⟨0x1820, ["aMONGOLIAN LETTER Ac Ec Ic Oc Uc OEc UEc EEc NAc ANGc BAc PAc QAc GAc MAc LAc SA",
      "c SHAc TAc DAc CHAc JAc YAc RAc WAc FAc KAc KHAc TSAc ZAc HAAc ZRAc LHAc ZHIc CHI",
      "c TODO LONG VOWEL SIGNd Ed Id Od Ud OEd UEd ANGd BAd PAd QAd GAd MAd TAd DAd CHAd JAd TSA",
      "d YAd WAd KAd GAAd HAAd JIAd NIAd DZAc SIBE Ed Id IYd UEd Ud ANGd KAd GAd HAd PAd SHAd TA",
      "d DAd JAd FAd GAAd HAAd TSAd ZAd RAAd CHAd ZHAc MANCHU Id KAd RAd FAd ZHA",
      "c CHA WITH TWO DOTS"]⟩,
    ⟨0x1880, ["aMONGOLIAN LETTER ALI GALI ANUSVARA ONEe VISARGA ONEe DAMARUe UBADAMA",
      "e INVERTED UBADAMAe BALUDAe THREE BALUDAe Ae Ie KAe NGAe CAe TTAe TTHAe DDAe NNAe TAe DA",
      "e PAe PHAe SSAe ZHAe ZAe AHc TODO ALI GALI TAf ZHAc MANCHU ALI GALI GHAf NGAf CAf JHAf TTA",
      "f DDHAf TAf DHAf SSAf CYAf ZHAf ZAc ALI GALI HALF Uf YAc MANCHU ALI GALI BHA",
      "c ALI GALI DAGALGAc MANCHU ALI GALI LHA"]⟩,
    ⟨0x18B0, ["aCANADIAN SYLLABICS OYc AYc AAYc WAYc POYc PAYc PWOYc TAYc KAYc KWAYc MAYc NOYc NAY",
      "c LAYc SOYc SAYc SHOYc SHAYc SHWOYc YOYc YAYc RAYc NWIc OJIBWAY NWIc NWIIc OJIBWAY NWII",
      "c NWOc OJIBWAY NWOc NWOOc OJIBWAY NWOOc RWEEc RWIc RWIIc RWOc RWOOc RWAc OJIBWAY Pd Td Kd C",
      "d Md Nd Sd SHc EASTERN Wc WESTERN Wc FINAL SMALL RINGd RAISED DOTc R-CREE RWE",
      "c WEST-CREE LOOe LAAc THWEc THWAc TTHWEc TTHOOc TTHAAc TLHWEc TLHOOc SAYISI SHWEd SHOOd HOO",
      "c CARRIER GWUd DENE GEEd GAAd GWAc SAYISI JUUc CARRIER JWAc BEAVER DENE Le R",
      "c CARRIER DENTAL S"]⟩,
    ⟨0x1900, ["aLIMBU VOWEL-CARRIER LETTERb LETTER KAc KHAc GAc GHAc NGAc CAc CHAc JAc JHAc YAN",
      "c TAc THAc DAc DHAc NAc PAc PHAc BAc BHAc MAc YAc RAc LAc WAc SHAc SSAc SAc HAc GYANc TRA"]⟩,
    ⟨0x1920, ["aLIMBU VOWEL SIGN Ad Id Ud EEd AId OOd AUd Ed Ob SUBJOINED LETTER YAd RAd WA"]⟩,
    ⟨0x1930, ["aLIMBU SMALL LETTER KAd NGAd ANUSVARAd TAd NAd PAd MAd RAd LAb SIGN MUKPHRENG",
      "c KEMPHRENGc SA-I"]⟩,
    ⟨0x1940, ["aLIMBU SIGN LOO"]⟩,
    ⟨0x1944, ["aLIMBU EXCLAMATION MARKb QUESTION MARKb DIGIT ZEROc ONEc TWOc THREEc FOURc FIVE",
      "c SIXc SEVENc EIGHTc NINEaTAI LE LETTER KAd XAd NGAd TSAd SAd YAd TAd THAd LAd PAd PHAd MA",
      "d FAd VAd HAd QAd KHAd TSHAd NAd Ad Id EEd EHd Ud OOd Od UEd Ed AUEd AI"]⟩,
    ⟨0x1970, ["aTAI LE LETTER TONE-2e-3e-4e-5e-6"]⟩,
    ⟨0x1980, ["aNEW TAI LUE LETTER HIGH QAe LOW QAe HIGH KAf XAf NGAe LOW KAf XAf NGAe HIGH TSA",
      "f SAf YAe LOW TSAf SAf YAe HIGH TAf THAf NAe LOW TAf THAf NAe HIGH PAf PHAf MAe LOW PAf PHA",
      "f MAe HIGH FAf VAf LAe LOW FAf VAf LAe HIGH HAf DAf BAe LOW HAf DAf BAe HIGH KVAf XVA",
      "e LOW KVAf XVAe HIGH SUAe LOW SUA"]⟩,
    ⟨0x19B0, ["aNEW TAI LUE VOWEL SIGN VOWEL SHORTENERf AAf IIf Uf UUf Ef AEf Of OAf UEf AYf AAY",
      "f UYf OYf OAYf UEYf IYd LETTER FINAL Vf NGf Nf Mf Kf Df Bd TONE MARK-1f-2"]⟩,
    ⟨0x19D0, ["aNEW TAI LUE DIGIT ZEROe ONEe TWOe THREEe FOURe FIVEe SIXe SEVENe EIGHTe NINE",
      "d THAM DIGIT ONE"]⟩,
    ⟨0x19DE, ["aNEW TAI LUE SIGN LAEe LAEVaKHMER SYMBOL PATHAMASATc MUOY KOETc PII KOETc BEI KOET",
      "c BUON KOETc PRAM KOETd-MUOY KOETd-PII KOETd-BEI KOETd-BUON KOETc DAP KOETd-MUOY KOET",
      "d-PII KOETd-BEI KOETd-BUON KOETd-PRAM KOETc TUTEYASATc MUOY ROCc PII ROCc BEI ROCc BUON ROC",
      "c PRAM ROCd-MUOY ROCd-PII ROCd-BEI ROCd-BUON ROCc DAP ROCd-MUOY ROCd-PII ROCd-BEI ROC",
      "d-BUON ROCd-PRAM ROCaBUGINESE LETTER KAc GAc NGAc NGKAc PAc BAc MAc MPAc TAc DAc NAc NRA",
      "c CAc JAc NYAc NYCAc YAc RAc LAc VAc SAc Ac HAb VOWEL SIGN Id Ud Ed Od AE"]⟩,
    ⟨0x1A1E, ["aBUGINESE PALLAWAb END OF SECTIONaTAI THAM LETTER HIGH KAe KHAe KXAd LOW KAe KXA",
      "e KHAd NGAd HIGH CAe CHAd LOW CAe SAe CHAd NYAd RATAd HIGH RATHAd DAd LOW RATHAd RANA",
      "d HIGH TAe THAd LOW TAe THAd NAd BAd HIGH PAe PHAe FAd LOW PAe FAe PHAd MAd LOW YAd HIGH YA",
      "d RAd RUEd LAd LUEd WAd HIGH SHAe SSAe SAe HAd LLAd Ad LOW HAd Id IId Ud UUd EEd OOd LAE",
      "d GREAT SAc CONSONANT SIGN MEDIAL RAf LAe LA TANG LAIc SIGN MAI KANG LAI",
      "c CONSONANT SIGN FINAL NGAe LOW PAe HIGH RATHA OR LOW PAe MAe BAe SA"]⟩,
    ⟨0x1A60, ["aTAI THAM SIGN SAKOTc VOWEL SIGN Ae MAI SATe AAe TALL AAe Ie IIe UEe UUEe Ue UUe O",
      "e OA BELOWe OYe Ee AEe OOe AIe THAM AIe OA ABOVEc SIGN MAI KANGd TONE-1e-2d KHUEN TONE-3f-4",
      "f-5d RA HAAMd MAI SAMd KHUEN-LUE KARAN"]⟩,
    ⟨0x1A7F, ["aTAI THAM COMBINING CRYPTOGRAMMIC DOTc HORA DIGIT ZEROe ONEe TWOe THREEe FOURe FIVE",
      "e SIXe SEVENe EIGHTe NINE"]⟩,
    ⟨0x1A90, ["aTAI THAM THAM DIGIT ZEROe ONEe TWOe THREEe FOURe FIVEe SIXe SEVENe EIGHTe NINE"]⟩,
    ⟨0x1AA0, ["aTAI THAM SIGN WIANGd WIANGWAAKd SAWANd KEOWd HOYd DOKMAId REVERSED ROTATED RANA",
      "d MAI YAMOKd KAANd KAANKUUd SATKAANd SATKAANKUUd HANGd CAANG"]⟩,
    ⟨0x1AB0, ["aCOMBINING DOUBLED CIRCUMFLEX ACCENTb DIAERESIS-RINGb INFINITYb DOWNWARDS ARROW",
      "b TRIPLE DOTb X-X BELOWb WIGGLY LINE BELOWb OPEN MARK BELOWb DOUBLE OPEN MARK BELOW",
      "b LIGHT CENTRALIZATION STROKE BELOWb STRONG CENTRALIZATION STROKE BELOWb PARENTHESES ABOVE",
      "b DOUBLE PARENTHESES ABOVEb PARENTHESES BELOWc OVERLAYb LATIN SMALL LETTER W BELOW",
      "e TURNED W BELOWb LEFT PARENTHESIS ABOVE LEFTb RIGHT PARENTHESIS ABOVE RIGHT",
      "b LEFT PARENTHESIS BELOW LEFTb RIGHT PARENTHESIS BELOW RIGHTb SQUARE BRACKETS ABOVE",
      "b NUMBER SIGN ABOVEb INVERTED DOUBLE ARCH ABOVEb PLUS SIGN ABOVEb DOUBLE PLUS SIGN ABOVE",
      "e BELOWb TRIPLE ACUTE ACCENTb LATIN SMALL LETTER INSULAR Gf Rf T"]⟩,
    ⟨0x1B00, ["aBALINESE SIGN ULU RICEMd CANDRAc CECEKc SURANGc BISAHb LETTER AKARAd TEDUNGc IKARA",
      "d TEDUNGc UKARAd TEDUNGc RA REPAe TEDUNGc LA LENGAe TEDUNGc EKARAc AIKARAc OKARAd TEDUNG",
      "c KAd MAHAPRANAc GAd GORAc NGAc CAd LACAc JAd JERAc NYAc TA LATIKd MURDA MAHAPRANA",
      "c DA MURDA ALPAPRANAe MAHAPRANAc NA RAMBATc TAd TAWAc DAd MADUc NAc PAd KAPALc BAd KEMBANG",
      "c MAc YAc RAc LAc WAc SA SAGAd SAPAdc HAb SIGN REREKANb VOWEL SIGN TEDUNGd ULUe SARId SUKU",
      "e ILUTd RA REPAf TEDUNGd LA LENGAf TEDUNGd TALINGe REPAe TEDUNGe REPA TEDUNGd PEPETe TEDUNG",
      "b ADEG ADEGb LETTER KAF SASAKc KHOT SASAKc TZIR SASAKc EF SASAKc VE SASAKc ZAL SASAK",
      "c ASYURA SASAKc ARCHAIC JNYA"]⟩,
    ⟨0x1B50, ["aBALINESE DIGIT ZEROc ONEc TWOc THREEc FOURc FIVEc SIXc SEVENc EIGHTc NINEb PANTI",
      "b PAMADAb WINDUb CARIK PAMUNGKAHc SIKIc PARERENb PAMENENGb MUSICAL SYMBOL DONGd DENGd DUNG",
      "d DANGe SURANGd DINGd DAENGd DEUNGd DAINGd DANG GEDEd COMBINING TEGEHe ENDEPe KEMPUL",
      "e KEMPLIe JEGOGANe KEMPUL WITH JEGOGANe KEMPLI WITH JEGOGANe BENDEe GONG",
      "d RIGHT-HAND OPEN DUGg DAGf CLOSED TUKg TAKd LEFT-HAND OPEN PANGg PUNGf CLOSED PLAKg PLUK",
      "f OPEN PINGb PANTI LANTANGb PAMADA LANTANG"]⟩,
    ⟨0x1B80, ["aSUNDANESE SIGN PANYECEKc PANGLAYARc PANGWISADb LETTER Ac Ic Uc AEc Oc Ec EUc KA",
      "c QAc GAc NGAc CAc JAc ZAc NYAc TAc DAc NAc PAc FAc VAc BAc MAc YAc RAc LAc WAc SAc XAc HA",
      "b CONSONANT SIGN PAMINGKALd PANYAKRAd PANYIKUb VOWEL SIGN PANGHULUd PANYUKUd PANAELAENG",
      "d PANOLONGd PAMEPETd PANEULEUNGb SIGN PAMAAEHc VIRAMAb CONSONANT SIGN PASANGAN MAe WA",
      "b LETTER KHAc SYAb DIGIT ZEROc ONEc TWOc THREEc FOURc FIVEc SIXc SEVENc EIGHTc NINE",
      "b AVAGRAHAb LETTER REUc LEUc BHAc FINAL Kd MaBATAK LETTER Ac SIMALUNGUN Ac HA",
      "c SIMALUNGUN HAc MANDAILING HAc BAc KARO BAc PAc SIMALUNGUN PAc NAc MANDAILING NAc WA",
      "c SIMALUNGUN WAc PAKPAK WAc GAc SIMALUNGUN GAc JAc DAc RAc SIMALUNGUN RAc MAc SIMALUNGUN MA",
      "c SOUTHERN TAc NORTHERN TAc SAc SIMALUNGUN SAc MANDAILING SAc YAc SIMALUNGUN YAc NGAc LA",
      "c SIMALUNGUN LAc NYAc CAc NDAc MBAc Ic Ub SIGN TOMPIb VOWEL SIGN Ed PAKPAK Ed EEd Id KARO I",
      "d Od KARO Od Ue FOR SIMALUNGUN SAb CONSONANT SIGN NGd Hb PANGOLATb PANONGONAN"]⟩,
    ⟨0x1BFC, ["aBATAK SYMBOL BINDU NA METEKd PINARBORASd JUDULd PANGOLATaLEPCHA LETTER KAc KLA",
      "c KHAc GAc GLAc NGAc CAc CHAc JAc NYAc TAc THAc DAc NAc PAc PLAc PHAc FAc FLAc BAc BLAc MA",
      "c MLAc TSAc TSHAc DZAc YAc RAc LAc HAc HLAc VAc SAc SHAc WAc Ab SUBJOINED LETTER YAd RA",
      "b VOWEL SIGN AAd Id Od OOd Ud UUd Eb CONSONANT SIGN Kd Md Ld Nd Pd Rd Td NYIN-DOd KANG",
      "b SIGN RANc NUKTA"]⟩,
    ⟨0x1C3B, ["aLEPCHA PUNCTUATION TA-ROLc NYET THYOOM TA-ROLc CER-WAc TSHOOK CER-WAdb DIGIT ZERO",
      "c ONEc TWOc THREEc FOURc FIVEc SIXc SEVENc EIGHTc NINE"]⟩,
    ⟨0x1C4D, ["aLEPCHA LETTER TTAc TTHAc DDAaOL CHIKI DIGIT ZEROd ONEd TWOd THREEd FOURd FIVEd SIX",
      "d SEVENd EIGHTd NINEc LETTER LAd ATd AGd ANGd ALd LAAd AAKd AAJd AAMd AAWd LId ISd IHd INY",
      "d IRd LUd UCd UDd UNNd UYd LEd EPd EDDd ENd ERRd LOd OTTd OBd OVd OHc MU TTUDDAG",
      "c GAAHLAA TTUDDAAGc MU-GAAHLAA TTUDDAAGc RELAAc PHAARKAAc AHADc PUNCTUATION MUCAAD",
      "d DOUBLE MUCAADaCYRILLIC SMALL LETTER ROUNDED VEd LONG-LEGGED DEd NARROW Od WIDE ES",
      "d TALL TEd THREE-LEGGED TEd TALL HARD SIGNe YATd UNBLENDED UK"]⟩,
    ⟨0x1C90, ["aGEORGIAN MTAVRULI CAPITAL LETTER ANe BANe GANe DONe ENe VINe ZENe TANe INe KAN",
      "e LASe MANe NARe ONe PARe ZHARe RAEe SANe TARe UNe PHARe KHARe GHANe QARe SHINe CHINe CAN",
      "e JILe CILe CHARe XANe JHANe HAEe HEe HIEe WEe HARe HOEe FIe YNe ELIFIe TURNED GANe AIN"]⟩,
    ⟨0x1CBD, ["aGEORGIAN MTAVRULI CAPITAL LETTER AENe HARD SIGNe LABIAL SIGN",
      "aSUNDANESE PUNCTUATION BINDU SURYAd PANGLONGd PURNAMAd CAKRAd LEU SATANGAd KA SATANGA",
      "d DA SATANGAd BA SATANGA"]⟩,
    ⟨0x1CD0, ["aVEDIC TONE KARSHANAc SHARAc PRENKHAb SIGN NIHSHVASAc YAJURVEDIC MIDLINE SVARITA",
      "b TONE YAJURVEDIC AGGRAVATED INDEPENDENT SVARITAd INDEPENDENT SVARITA",
      "d KATHAKA INDEPENDENT SVARITAc CANDRA BELOW",
      "c YAJURVEDIC KATHAKA INDEPENDENT SVARITA SCHROEDERc DOUBLE SVARITAc TRIPLE SVARITA",
      "c KATHAKA ANUDATTAc DOT BELOWc TWO DOTS BELOWc THREE DOTS BELOW",
      "c RIGVEDIC KASHMIRI INDEPENDENT SVARITAc ATHARVAVEDIC INDEPENDENT SVARITA",
      "b SIGN VISARGA SVARITAd UDATTAc REVERSED VISARGA UDATTAc VISARGA ANUDATTA",
      "c REVERSED VISARGA ANUDATTAc VISARGA UDATTA WITH TAILd ANUDATTA WITH TAIL",
      "c ANUSVARA ANTARGOMUKHAd BAHIRGOMUKHAd VAMAGOMUKHAe WITH TAILc TIRYAK",
      "c HEXIFORM LONG ANUSVARAc LONG ANUSVARAc RTHANG LONG ANUSVARAc ANUSVARA UBHAYATO MUKHA",
      "c ARDHAVISARGAc ROTATED ARDHAVISARGAb TONE CANDRA ABOVEb SIGN JIHVAMULIYAc UPADHMANIYA",
      "c ATIKRAMAb TONE RING ABOVEc DOUBLE RING ABOVEb SIGN DOUBLE ANUSVARA ANTARGOMUKHA"]⟩,
    ⟨0x1D00, ["aLATIN LETTER SMALL CAPITAL Ae AEb SMALL LETTER TURNED AE",
      "b LETTER SMALL CAPITAL BARRED Be Ce De ETHe Eb SMALL LETTER TURNED OPEN Ee I",
      "b LETTER SMALL CAPITAL Je Ke L WITH STROKEe Me REVERSED Ne Oe OPEN O",
      "b SMALL LETTER SIDEWAYS Oe OPEN Oe O WITH STROKEd TURNED OEb LETTER SMALL CAPITAL OU",
      "b SMALL LETTER TOP HALF Od BOTTOM HALF Ob LETTER SMALL CAPITAL Pe REVERSED Re TURNED Re T",
      "e Ub SMALL LETTER SIDEWAYS Ue DIAERESIZED Ue TURNED Mb LETTER SMALL CAPITAL Ve We Ze EZH",
      "c VOICED LARYNGEAL SPIRANTc AINaGREEK LETTER SMALL CAPITAL GAMMAe LAMDAe PIe RHOe PSI",
      "aCYRILLIC LETTER SMALL CAPITAL ELaMODIFIER LETTER CAPITAL Ad AEd Bd BARRED Bd Dd E",
      "d REVERSED Ed Gd Hd Id Jd Kd Ld Md Nd REVERSED Nd Od OUd Pd Rd Td Ud Wc SMALL Ad TURNED A",
      "d ALPHAd TURNED AEd Bd Dd Ed SCHWAd OPEN Ed TURNED OPEN Ed Gd TURNED Id Kd Md ENGd O",
      "d OPEN Od TOP HALF Od BOTTOM HALF Od Pd Td Ud SIDEWAYS Ud TURNED Md Vd AINd BETA",
      "d GREEK GAMMAd DELTAd GREEK PHId CHIaLATIN SUBSCRIPT SMALL LETTER Ie Re Ue V",
      "aGREEK SUBSCRIPT SMALL LETTER BETAe GAMMAe RHOe PHIe CHIaLATIN SMALL LETTER UE",
      "d B WITH MIDDLE TILDEd D WITH MIDDLE TILDEd F WITH MIDDLE TILDEd M WITH MIDDLE TILDE",
      "d N WITH MIDDLE TILDEd P WITH MIDDLE TILDEd R WITH MIDDLE TILDEf FISHHOOK AND MIDDLE TILDE",
      "d S WITH MIDDLE TILDEd T WITH MIDDLE TILDEd Z WITH MIDDLE TILDEd TURNED G",
      "aMODIFIER LETTER CYRILLIC ENaLATIN SMALL LETTER INSULAR Gd TH WITH STRIKETHROUGH",
      "c CAPITAL LETTER I WITH STROKEc LETTER IOTA WITH STROKEd P WITH STROKE",
      "c CAPITAL LETTER U WITH STROKEc LETTER UPSILON WITH STROKEd B WITH PALATAL HOOK",
      "d D WITH PALATAL HOOKd F WITH PALATAL HOOKd G WITH PALATAL HOOKd K WITH PALATAL HOOK",
      "d L WITH PALATAL HOOKd M WITH PALATAL HOOKd N WITH PALATAL HOOKd P WITH PALATAL HOOK",
      "d R WITH PALATAL HOOKd S WITH PALATAL HOOKd ESH WITH PALATAL HOOKd V WITH PALATAL HOOK",
      "d X WITH PALATAL HOOKd Z WITH PALATAL HOOKd A WITH RETROFLEX HOOK",
      "d ALPHA WITH RETROFLEX HOOKd D WITH HOOK AND TAILd E WITH RETROFLEX HOOK",
      "d OPEN E WITH RETROFLEX HOOKd REVERSED OPEN E WITH RETROFLEX HOOK",
      "d SCHWA WITH RETROFLEX HOOKd I WITH RETROFLEX HOOKd OPEN O WITH RETROFLEX HOOK",
      "d ESH WITH RETROFLEX HOOKd U WITH RETROFLEX HOOKd EZH WITH RETROFLEX HOOK",
      "aMODIFIER LETTER SMALL TURNED ALPHAd Ce WITH CURLd ETHd REVERSED OPEN Ed F",
      "d DOTLESS J WITH STROKEd SCRIPT Gd TURNED Hd I WITH STROKEd IOTAd CAPITAL If WITH STROKE",
      "d J WITH CROSSED-TAILd L WITH RETROFLEX HOOKf PALATAL HOOKd CAPITAL Ld M WITH HOOK",
      "d TURNED M WITH LONG LEGd N WITH LEFT HOOKf RETROFLEX HOOKd CAPITAL Nd BARRED Od PHI",
      "d S WITH HOOKd ESHd T WITH PALATAL HOOKd U BARd UPSILONd CAPITAL Ud V WITH HOOKd TURNED V",
      "d Ze WITH RETROFLEX HOOKf CURLd EZHd THETAaCOMBINING DOTTED GRAVE ACCENTc ACUTE ACCENT",
      "b SNAKE BELOWb SUSPENSION MARKb MACRON-ACUTEb GRAVE-MACRONb MACRON-GRAVEb ACUTE-MACRON",
      "b GRAVE-ACUTE-GRAVEb ACUTE-GRAVE-ACUTEb LATIN SMALL LETTER R BELOWb BREVE-MACRON",
      "b MACRON-BREVEb DOUBLE CIRCUMFLEX ABOVEb OGONEK ABOVEb ZIGZAG BELOWb IS BELOWb UR ABOVE",
      "b US ABOVEb LATIN SMALL LETTER FLATTENED OPEN A ABOVEe AEe AOe AVe C CEDILLAe INSULAR D",
      "e ETHe Gc LETTER SMALL CAPITAL Gc SMALL LETTER Ke Lc LETTER SMALL CAPITAL Lf M",
      "c SMALL LETTER Nc LETTER SMALL CAPITAL Nf Rc SMALL LETTER R ROTUNDAe Se LONG Se Ze ALPHAe B",
      "e BETAe SCHWAe Fe L WITH DOUBLE MIDDLE TILDEe O WITH LIGHT CENTRALIZATION STROKEe Pe ESH",
      "e U WITH LIGHT CENTRALIZATION STROKEe We A WITH DIAERESISe O WITH DIAERESIS",
      "e U WITH DIAERESISb UP TACK ABOVEb KAVYKA ABOVE RIGHTd LEFTb DOT ABOVE LEFT",
      "b WIDE INVERTED BRIDGE BELOWb DOT BELOW LEFTb DELETION MARKb DOUBLE INVERTED BREVE BELOW",
      "b ALMOST EQUAL TO BELOWb LEFT ARROWHEAD ABOVEb RIGHT ARROWHEAD AND DOWN ARROWHEAD BELOW",
      "aLATIN CAPITAL LETTER A WITH RING BELOWb SMALL LETTER A WITH RING BELOW",
      "b CAPITAL LETTER B WITH DOT ABOVEb SMALL LETTER B WITH DOT ABOVE",
      "b CAPITAL LETTER B WITH DOT BELOWb SMALL LETTER B WITH DOT BELOW",
      "b CAPITAL LETTER B WITH LINE BELOWb SMALL LETTER B WITH LINE BELOW",
      "b CAPITAL LETTER C WITH CEDILLA AND ACUTEb SMALL LETTER C WITH CEDILLA AND ACUTE",
      "b CAPITAL LETTER D WITH DOT ABOVEb SMALL LETTER D WITH DOT ABOVE",
      "b CAPITAL LETTER D WITH DOT BELOWb SMALL LETTER D WITH DOT BELOW",
      "b CAPITAL LETTER D WITH LINE BELOWb SMALL LETTER D WITH LINE BELOW",
      "b CAPITAL LETTER D WITH CEDILLAb SMALL LETTER D WITH CEDILLA",
      "b CAPITAL LETTER D WITH CIRCUMFLEX BELOWb SMALL LETTER D WITH CIRCUMFLEX BELOW",
      "b CAPITAL LETTER E WITH MACRON AND GRAVEb SMALL LETTER E WITH MACRON AND GRAVE",
      "b CAPITAL LETTER E WITH MACRON AND ACUTEb SMALL LETTER E WITH MACRON AND ACUTE",
      "b CAPITAL LETTER E WITH CIRCUMFLEX BELOWb SMALL LETTER E WITH CIRCUMFLEX BELOW",
      "b CAPITAL LETTER E WITH TILDE BELOWb SMALL LETTER E WITH TILDE BELOW",
      "b CAPITAL LETTER E WITH CEDILLA AND BREVEb SMALL LETTER E WITH CEDILLA AND BREVE",
      "b CAPITAL LETTER F WITH DOT ABOVEb SMALL LETTER F WITH DOT ABOVE",
      "b CAPITAL LETTER G WITH MACRONb SMALL LETTER G WITH MACRONb CAPITAL LETTER H WITH DOT ABOVE",
      "b SMALL LETTER H WITH DOT ABOVEb CAPITAL LETTER H WITH DOT BELOW",
      "b SMALL LETTER H WITH DOT BELOWb CAPITAL LETTER H WITH DIAERESIS",
      "b SMALL LETTER H WITH DIAERESISb CAPITAL LETTER H WITH CEDILLAb SMALL LETTER H WITH CEDILLA",
      "b CAPITAL LETTER H WITH BREVE BELOWb SMALL LETTER H WITH BREVE BELOW",
      "b CAPITAL LETTER I WITH TILDE BELOWb SMALL LETTER I WITH TILDE BELOW",
      "b CAPITAL LETTER I WITH DIAERESIS AND ACUTEb SMALL LETTER I WITH DIAERESIS AND ACUTE",
      "b CAPITAL LETTER K WITH ACUTEb SMALL LETTER K WITH ACUTEb CAPITAL LETTER K WITH DOT BELOW",
      "b SMALL LETTER K WITH DOT BELOWb CAPITAL LETTER K WITH LINE BELOW",
      "b SMALL LETTER K WITH LINE BELOWb CAPITAL LETTER L WITH DOT BELOW",
      "b SMALL LETTER L WITH DOT BELOWb CAPITAL LETTER L WITH DOT BELOW AND MACRON",
      "b SMALL LETTER L WITH DOT BELOW AND MACRONb CAPITAL LETTER L WITH LINE BELOW",
      "b SMALL LETTER L WITH LINE BELOWb CAPITAL LETTER L WITH CIRCUMFLEX BELOW",
      "b SMALL LETTER L WITH CIRCUMFLEX BELOWb CAPITAL LETTER M WITH ACUTE",
      "b SMALL LETTER M WITH ACUTEb CAPITAL LETTER M WITH DOT ABOVEb SMALL LETTER M WITH DOT ABOVE",
      "b CAPITAL LETTER M WITH DOT BELOWb SMALL LETTER M WITH DOT BELOW",
      "b CAPITAL LETTER N WITH DOT ABOVEb SMALL LETTER N WITH DOT ABOVE",
      "b CAPITAL LETTER N WITH DOT BELOWb SMALL LETTER N WITH DOT BELOW",
      "b CAPITAL LETTER N WITH LINE BELOWb SMALL LETTER N WITH LINE BELOW",
      "b CAPITAL LETTER N WITH CIRCUMFLEX BELOWb SMALL LETTER N WITH CIRCUMFLEX BELOW",
      "b CAPITAL LETTER O WITH TILDE AND ACUTEb SMALL LETTER O WITH TILDE AND ACUTE",
      "b CAPITAL LETTER O WITH TILDE AND DIAERESISb SMALL LETTER O WITH TILDE AND DIAERESIS",
      "b CAPITAL LETTER O WITH MACRON AND GRAVEb SMALL LETTER O WITH MACRON AND GRAVE",
      "b CAPITAL LETTER O WITH MACRON AND ACUTEb SMALL LETTER O WITH MACRON AND ACUTE",
      "b CAPITAL LETTER P WITH ACUTEb SMALL LETTER P WITH ACUTEb CAPITAL LETTER P WITH DOT ABOVE",
      "b SMALL LETTER P WITH DOT ABOVEb CAPITAL LETTER R WITH DOT ABOVE",
      "b SMALL LETTER R WITH DOT ABOVEb CAPITAL LETTER R WITH DOT BELOW",
      "b SMALL LETTER R WITH DOT BELOWb CAPITAL LETTER R WITH DOT BELOW AND MACRON",
      "b SMALL LETTER R WITH DOT BELOW AND MACRONb CAPITAL LETTER R WITH LINE BELOW",
      "b SMALL LETTER R WITH LINE BELOWb CAPITAL LETTER S WITH DOT ABOVE",
      "b SMALL LETTER S WITH DOT ABOVEb CAPITAL LETTER S WITH DOT BELOW",
      "b SMALL LETTER S WITH DOT BELOWb CAPITAL LETTER S WITH ACUTE AND DOT ABOVE",
      "b SMALL LETTER S WITH ACUTE AND DOT ABOVEb CAPITAL LETTER S WITH CARON AND DOT ABOVE",
      "b SMALL LETTER S WITH CARON AND DOT ABOVEb CAPITAL LETTER S WITH DOT BELOW AND DOT ABOVE",
      "b SMALL LETTER S WITH DOT BELOW AND DOT ABOVEb CAPITAL LETTER T WITH DOT ABOVE",
      "b SMALL LETTER T WITH DOT ABOVEb CAPITAL LETTER T WITH DOT BELOW",
      "b SMALL LETTER T WITH DOT BELOWb CAPITAL LETTER T WITH LINE BELOW",
      "b SMALL LETTER T WITH LINE BELOWb CAPITAL LETTER T WITH CIRCUMFLEX BELOW",
      "b SMALL LETTER T WITH CIRCUMFLEX BELOWb CAPITAL LETTER U WITH DIAERESIS BELOW",
      "b SMALL LETTER U WITH DIAERESIS BELOWb CAPITAL LETTER U WITH TILDE BELOW",
      "b SMALL LETTER U WITH TILDE BELOWb CAPITAL LETTER U WITH CIRCUMFLEX BELOW",
      "b SMALL LETTER U WITH CIRCUMFLEX BELOWb CAPITAL LETTER U WITH TILDE AND ACUTE",
      "b SMALL LETTER U WITH TILDE AND ACUTEb CAPITAL LETTER U WITH MACRON AND DIAERESIS",
      "b SMALL LETTER U WITH MACRON AND DIAERESISb CAPITAL LETTER V WITH TILDE",
      "b SMALL LETTER V WITH TILDEb CAPITAL LETTER V WITH DOT BELOWb SMALL LETTER V WITH DOT BELOW",
      "b CAPITAL LETTER W WITH GRAVEb SMALL LETTER W WITH GRAVEb CAPITAL LETTER W WITH ACUTE",
      "b SMALL LETTER W WITH ACUTEb CAPITAL LETTER W WITH DIAERESISb SMALL LETTER W WITH DIAERESIS",
      "b CAPITAL LETTER W WITH DOT ABOVEb SMALL LETTER W WITH DOT ABOVE",
      "b CAPITAL LETTER W WITH DOT BELOWb SMALL LETTER W WITH DOT BELOW",
      "b CAPITAL LETTER X WITH DOT ABOVEb SMALL LETTER X WITH DOT ABOVE",
      "b CAPITAL LETTER X WITH DIAERESISb SMALL LETTER X WITH DIAERESIS",
      "b CAPITAL LETTER Y WITH DOT ABOVEb SMALL LETTER Y WITH DOT ABOVE",
      "b CAPITAL LETTER Z WITH CIRCUMFLEXb SMALL LETTER Z WITH CIRCUMFLEX",
      "b CAPITAL LETTER Z WITH DOT BELOWb SMALL LETTER Z WITH DOT BELOW",
      "b CAPITAL LETTER Z WITH LINE BELOWb SMALL LETTER Z WITH LINE BELOWd H WITH LINE BELOW",
      "d T WITH DIAERESISd W WITH RING ABOVEd Y WITH RING ABOVEd A WITH RIGHT HALF RING",
      "d LONG S WITH DOT ABOVEg DIAGONAL STROKEg HIGH STROKEb CAPITAL LETTER SHARP S",
      "b SMALL LETTER DELTAb CAPITAL LETTER A WITH DOT BELOWb SMALL LETTER A WITH DOT BELOW",
      "b CAPITAL LETTER A WITH HOOK ABOVEb SMALL LETTER A WITH HOOK ABOVE",
      "b CAPITAL LETTER A WITH CIRCUMFLEX AND ACUTEb SMALL LETTER A WITH CIRCUMFLEX AND ACUTE",
      "b CAPITAL LETTER A WITH CIRCUMFLEX AND GRAVEb SMALL LETTER A WITH CIRCUMFLEX AND GRAVE",
      "b CAPITAL LETTER A WITH CIRCUMFLEX AND HOOK ABOVE",
      "b SMALL LETTER A WITH CIRCUMFLEX AND HOOK ABOVEb CAPITAL LETTER A WITH CIRCUMFLEX AND TILDE",
      "b SMALL LETTER A WITH CIRCUMFLEX AND TILDEb CAPITAL LETTER A WITH CIRCUMFLEX AND DOT BELOW",
      "b SMALL LETTER A WITH CIRCUMFLEX AND DOT BELOWb CAPITAL LETTER A WITH BREVE AND ACUTE",
      "b SMALL LETTER A WITH BREVE AND ACUTEb CAPITAL LETTER A WITH BREVE AND GRAVE",
      "b SMALL LETTER A WITH BREVE AND GRAVEb CAPITAL LETTER A WITH BREVE AND HOOK ABOVE",
      "b SMALL LETTER A WITH BREVE AND HOOK ABOVEb CAPITAL LETTER A WITH BREVE AND TILDE",
      "b SMALL LETTER A WITH BREVE AND TILDEb CAPITAL LETTER A WITH BREVE AND DOT BELOW",
      "b SMALL LETTER A WITH BREVE AND DOT BELOWb CAPITAL LETTER E WITH DOT BELOW",
      "b SMALL LETTER E WITH DOT BELOWb CAPITAL LETTER E WITH HOOK ABOVE",
      "b SMALL LETTER E WITH HOOK ABOVEb CAPITAL LETTER E WITH TILDEb SMALL LETTER E WITH TILDE",
      "b CAPITAL LETTER E WITH CIRCUMFLEX AND ACUTEb SMALL LETTER E WITH CIRCUMFLEX AND ACUTE",
      "b CAPITAL LETTER E WITH CIRCUMFLEX AND GRAVEb SMALL LETTER E WITH CIRCUMFLEX AND GRAVE",
      "b CAPITAL LETTER E WITH CIRCUMFLEX AND HOOK ABOVE",
      "b SMALL LETTER E WITH CIRCUMFLEX AND HOOK ABOVEb CAPITAL LETTER E WITH CIRCUMFLEX AND TILDE",
      "b SMALL LETTER E WITH CIRCUMFLEX AND TILDEb CAPITAL LETTER E WITH CIRCUMFLEX AND DOT BELOW",
      "b SMALL LETTER E WITH CIRCUMFLEX AND DOT BELOWb CAPITAL LETTER I WITH HOOK ABOVE",
      "b SMALL LETTER I WITH HOOK ABOVEb CAPITAL LETTER I WITH DOT BELOW",
      "b SMALL LETTER I WITH DOT BELOWb CAPITAL LETTER O WITH DOT BELOW",
      "b SMALL LETTER O WITH DOT BELOWb CAPITAL LETTER O WITH HOOK ABOVE",
      "b SMALL LETTER O WITH HOOK ABOVEb CAPITAL LETTER O WITH CIRCUMFLEX AND ACUTE",
      "b SMALL LETTER O WITH CIRCUMFLEX AND ACUTEb CAPITAL LETTER O WITH CIRCUMFLEX AND GRAVE",
      "b SMALL LETTER O WITH CIRCUMFLEX AND GRAVEb CAPITAL LETTER O WITH CIRCUMFLEX AND HOOK ABOVE",
      "b SMALL LETTER O WITH CIRCUMFLEX AND HOOK ABOVEb CAPITAL LETTER O WITH CIRCUMFLEX AND TILDE",
      "b SMALL LETTER O WITH CIRCUMFLEX AND TILDEb CAPITAL LETTER O WITH CIRCUMFLEX AND DOT BELOW",
      "b SMALL LETTER O WITH CIRCUMFLEX AND DOT BELOWb CAPITAL LETTER O WITH HORN AND ACUTE",
      "b SMALL LETTER O WITH HORN AND ACUTEb CAPITAL LETTER O WITH HORN AND GRAVE",
      "b SMALL LETTER O WITH HORN AND GRAVEb CAPITAL LETTER O WITH HORN AND HOOK ABOVE",
      "b SMALL LETTER O WITH HORN AND HOOK ABOVEb CAPITAL LETTER O WITH HORN AND TILDE",
      "b SMALL LETTER O WITH HORN AND TILDEb CAPITAL LETTER O WITH HORN AND DOT BELOW",
      "b SMALL LETTER O WITH HORN AND DOT BELOWb CAPITAL LETTER U WITH DOT BELOW",
      "b SMALL LETTER U WITH DOT BELOWb CAPITAL LETTER U WITH HOOK ABOVE",
      "b SMALL LETTER U WITH HOOK ABOVEb CAPITAL LETTER U WITH HORN AND ACUTE",
      "b SMALL LETTER U WITH HORN AND ACUTEb CAPITAL LETTER U WITH HORN AND GRAVE",
      "b SMALL LETTER U WITH HORN AND GRAVEb CAPITAL LETTER U WITH HORN AND HOOK ABOVE",
      "b SMALL LETTER U WITH HORN AND HOOK ABOVEb CAPITAL LETTER U WITH HORN AND TILDE",
      "b SMALL LETTER U WITH HORN AND TILDEb CAPITAL LETTER U WITH HORN AND DOT BELOW",
      "b SMALL LETTER U WITH HORN AND DOT BELOWb CAPITAL LETTER Y WITH GRAVE",
      "b SMALL LETTER Y WITH GRAVEb CAPITAL LETTER Y WITH DOT BELOWb SMALL LETTER Y WITH DOT BELOW",
      "b CAPITAL LETTER Y WITH HOOK ABOVEb SMALL LETTER Y WITH HOOK ABOVE",
      "b CAPITAL LETTER Y WITH TILDEb SMALL LETTER Y WITH TILDEb CAPITAL LETTER MIDDLE-WELSH LL",
      "b SMALL LETTER MIDDLE-WELSH LLb CAPITAL LETTER MIDDLE-WELSH Vb SMALL LETTER MIDDLE-WELSH V",
      "b CAPITAL LETTER Y WITH LOOPb SMALL LETTER Y WITH LOOPaGREEK SMALL LETTER ALPHA WITH PSILI",
      "f DASIAf PSILI AND VARIAf DASIA AND VARIAf PSILI AND OXIAf DASIA AND OXIA",
      "f PSILI AND PERISPOMENIf DASIA AND PERISPOMENIb CAPITAL LETTER ALPHA WITH PSILIf DASIA",
      "f PSILI AND VARIAf DASIA AND VARIAf PSILI AND OXIAf DASIA AND OXIAf PSILI AND PERISPOMENI",
      "f DASIA AND PERISPOMENIb SMALL LETTER EPSILON WITH PSILIf DASIAf PSILI AND VARIA",
      "f DASIA AND VARIAf PSILI AND OXIAf DASIA AND OXIA"]⟩,
    ⟨0x1F18, ["aGREEK CAPITAL LETTER EPSILON WITH PSILIf DASIAf PSILI AND VARIAf DASIA AND VARIA",
      "f PSILI AND OXIAf DASIA AND OXIA"]⟩,
    ⟨0x1F20, ["aGREEK SMALL LETTER ETA WITH PSILIf DASIAf PSILI AND VARIAf DASIA AND VARIA",
      "f PSILI AND OXIAf DASIA AND OXIAf PSILI AND PERISPOMENIf DASIA AND PERISPOMENI",
      "b CAPITAL LETTER ETA WITH PSILIf DASIAf PSILI AND VARIAf DASIA AND VARIAf PSILI AND OXIA",
      "f DASIA AND OXIAf PSILI AND PERISPOMENIf DASIA AND PERISPOMENI",
      "b SMALL LETTER IOTA WITH PSILIf DASIAf PSILI AND VARIAf DASIA AND VARIAf PSILI AND OXIA",
      "f DASIA AND OXIAf PSILI AND PERISPOMENIf DASIA AND PERISPOMENI",
      "b CAPITAL LETTER IOTA WITH PSILIf DASIAf PSILI AND VARIAf DASIA AND VARIAf PSILI AND OXIA",
      "f DASIA AND OXIAf PSILI AND PERISPOMENIf DASIA AND PERISPOMENI",
      "b SMALL LETTER OMICRON WITH PSILIf DASIAf PSILI AND VARIAf DASIA AND VARIAf PSILI AND OXIA",
      "f DASIA AND OXIA"]⟩,
    ⟨0x1F48, ["aGREEK CAPITAL LETTER OMICRON WITH PSILIf DASIAf PSILI AND VARIAf DASIA AND VARIA",
      "f PSILI AND OXIAf DASIA AND OXIA"]⟩,
    ⟨0x1F50, ["aGREEK SMALL LETTER UPSILON WITH PSILIf DASIAf PSILI AND VARIAf DASIA AND VARIA",
      "f PSILI AND OXIAf DASIA AND OXIAf PSILI AND PERISPOMENIf DASIA AND PERISPOMENI"]⟩,
    ⟨0x1F59, ["aGREEK CAPITAL LETTER UPSILON WITH DASIA"]⟩,
    ⟨0x1F5B, ["aGREEK CAPITAL LETTER UPSILON WITH DASIA AND VARIA"]⟩,
    ⟨0x1F5D, ["aGREEK CAPITAL LETTER UPSILON WITH DASIA AND OXIA"]⟩,
    ⟨0x1F5F, ["aGREEK CAPITAL LETTER UPSILON WITH DASIA AND PERISPOMENI",
      "b SMALL LETTER OMEGA WITH PSILIf DASIAf PSILI AND VARIAf DASIA AND VARIAf PSILI AND OXIA",
      "f DASIA AND OXIAf PSILI AND PERISPOMENIf DASIA AND PERISPOMENI",
      "b CAPITAL LETTER OMEGA WITH PSILIf DASIAf PSILI AND VARIAf DASIA AND VARIAf PSILI AND OXIA",
      "f DASIA AND OXIAf PSILI AND PERISPOMENIf DASIA AND PERISPOMENI",
      "b SMALL LETTER ALPHA WITH VARIAf OXIAd EPSILON WITH VARIAf OXIAd ETA WITH VARIAf OXIA",
      "d IOTA WITH VARIAf OXIAd OMICRON WITH VARIAf OXIAd UPSILON WITH VARIAf OXIA",
      "d OMEGA WITH VARIAf OXIA"]⟩,
    ⟨0x1F80, ["aGREEK SMALL LETTER ALPHA WITH PSILI AND YPOGEGRAMMENIf DASIA AND YPOGEGRAMMENI",
      "f PSILI AND VARIA AND YPOGEGRAMMENIf DASIA AND VARIA AND YPOGEGRAMMENI",
      "f PSILI AND OXIA AND YPOGEGRAMMENIf DASIA AND OXIA AND YPOGEGRAMMENI",
      "f PSILI AND PERISPOMENI AND YPOGEGRAMMENIf DASIA AND PERISPOMENI AND YPOGEGRAMMENI",
      "b CAPITAL LETTER ALPHA WITH PSILI AND PROSGEGRAMMENIf DASIA AND PROSGEGRAMMENI",
      "f PSILI AND VARIA AND PROSGEGRAMMENIf DASIA AND VARIA AND PROSGEGRAMMENI",
      "f PSILI AND OXIA AND PROSGEGRAMMENIf DASIA AND OXIA AND PROSGEGRAMMENI",
      "f PSILI AND PERISPOMENI AND PROSGEGRAMMENIf DASIA AND PERISPOMENI AND PROSGEGRAMMENI",
      "b SMALL LETTER ETA WITH PSILI AND YPOGEGRAMMENIf DASIA AND YPOGEGRAMMENI",
      "f PSILI AND VARIA AND YPOGEGRAMMENIf DASIA AND VARIA AND YPOGEGRAMMENI",
      "f PSILI AND OXIA AND YPOGEGRAMMENIf DASIA AND OXIA AND YPOGEGRAMMENI",
      "f PSILI AND PERISPOMENI AND YPOGEGRAMMENIf DASIA AND PERISPOMENI AND YPOGEGRAMMENI",
      "b CAPITAL LETTER ETA WITH PSILI AND PROSGEGRAMMENIf DASIA AND PROSGEGRAMMENI",
      "f PSILI AND VARIA AND PROSGEGRAMMENIf DASIA AND VARIA AND PROSGEGRAMMENI",
      "f PSILI AND OXIA AND PROSGEGRAMMENIf DASIA AND OXIA AND PROSGEGRAMMENI",
      "f PSILI AND PERISPOMENI AND PROSGEGRAMMENIf DASIA AND PERISPOMENI AND PROSGEGRAMMENI",
      "b SMALL LETTER OMEGA WITH PSILI AND YPOGEGRAMMENIf DASIA AND YPOGEGRAMMENI",
      "f PSILI AND VARIA AND YPOGEGRAMMENIf DASIA AND VARIA AND YPOGEGRAMMENI",
      "f PSILI AND OXIA AND YPOGEGRAMMENIf DASIA AND OXIA AND YPOGEGRAMMENI",
      "f PSILI AND PERISPOMENI AND YPOGEGRAMMENIf DASIA AND PERISPOMENI AND YPOGEGRAMMENI",
      "b CAPITAL LETTER OMEGA WITH PSILI AND PROSGEGRAMMENIf DASIA AND PROSGEGRAMMENI",
      "f PSILI AND VARIA AND PROSGEGRAMMENIf DASIA AND VARIA AND PROSGEGRAMMENI",
      "f PSILI AND OXIA AND PROSGEGRAMMENIf DASIA AND OXIA AND PROSGEGRAMMENI",
      "f PSILI AND PERISPOMENI AND PROSGEGRAMMENIf DASIA AND PERISPOMENI AND PROSGEGRAMMENI",
      "b SMALL LETTER ALPHA WITH VRACHYf MACRONf VARIA AND YPOGEGRAMMENIf YPOGEGRAMMENI",
      "f OXIA AND YPOGEGRAMMENI"]⟩,
    ⟨0x1FB6, ["aGREEK SMALL LETTER ALPHA WITH PERISPOMENIg AND YPOGEGRAMMENI",
      "b CAPITAL LETTER ALPHA WITH VRACHYf MACRONf VARIAf OXIAf PROSGEGRAMMENIb KORONIS",
      "b PROSGEGRAMMENIb PSILIb PERISPOMENIb DIALYTIKA AND PERISPOMENI",
      "b SMALL LETTER ETA WITH VARIA AND YPOGEGRAMMENIf YPOGEGRAMMENIf OXIA AND YPOGEGRAMMENI"]⟩,
    ⟨0x1FC6, ["aGREEK SMALL LETTER ETA WITH PERISPOMENIg AND YPOGEGRAMMENI",
      "b CAPITAL LETTER EPSILON WITH VARIAf OXIAd ETA WITH VARIAf OXIAf PROSGEGRAMMENI",
      "b PSILI AND VARIAd OXIAd PERISPOMENIb SMALL LETTER IOTA WITH VRACHYf MACRON",
      "f DIALYTIKA AND VARIAh OXIA"]⟩,
    ⟨0x1FD6, ["aGREEK SMALL LETTER IOTA WITH PERISPOMENIf DIALYTIKA AND PERISPOMENI",
      "b CAPITAL LETTER IOTA WITH VRACHYf MACRONf VARIAf OXIA"]⟩,
    ⟨0x1FDD, ["aGREEK DASIA AND VARIAd OXIAd PERISPOMENIb SMALL LETTER UPSILON WITH VRACHYf MACRON",
      "f DIALYTIKA AND VARIAh OXIAd RHO WITH PSILIf DASIAd UPSILON WITH PERISPOMENI",
      "f DIALYTIKA AND PERISPOMENIb CAPITAL LETTER UPSILON WITH VRACHYf MACRONf VARIAf OXIA",
      "d RHO WITH DASIAb DIALYTIKA AND VARIAd OXIAb VARIA"]⟩,
    ⟨0x1FF2, ["aGREEK SMALL LETTER OMEGA WITH VARIA AND YPOGEGRAMMENIf YPOGEGRAMMENI",
      "f OXIA AND YPOGEGRAMMENI"]⟩,
    ⟨0x1FF6, ["aGREEK SMALL LETTER OMEGA WITH PERISPOMENIg AND YPOGEGRAMMENI",
      "b CAPITAL LETTER OMICRON WITH VARIAf OXIAd OMEGA WITH VARIAf OXIAf PROSGEGRAMMENIb OXIA",
      "b DASIA"]⟩
  ]

end PromptContract.Text

import PromptContract.Libraries.Text.CharacterName.Run

/-!
# Names of characters: pictographs

The names of wedges, pictographs and other large sets of signs:
the characters from U+12000 to U+1CFFF, by runs.
-/

namespace PromptContract.Text

/-- The names of wedges, pictographs and other large sets of signs. -/
def pictographNames : Array NameRun :=
  #[
    ⟨0x12000, ["aCUNEIFORM SIGN Ad TIMES Ae BADe GAN2 TENUe HAe IGIe LAGAR GUNUe MUSHe SAGc A2c AB",
      "d TIMES ASH2e DUN3 GUNUe GALe GAN2 TENUe HAe IGI GUNUe IMINe LAGABe SHESHe U PLUS U PLUS U",
      "d GUNUc AB2d TIMES BALAGe GAN2 TENUe ME PLUS ENe SHA3e TAK4c ADc AKd TIMES ERIN2",
      "e SHITA PLUS GISHc ALd TIMES ALe DIM2e GISHe HAe KAD3e KIe SHEe USHc ALANc ALEPHc AMAR",
      "d TIMES SHEc ANd OVER ANd THREE TIMESd PLUS NAGA OPPOSING AN PLUS NAGAf SQUAREDc ANSHE",
      "c APINc ARADd TIMES KURc ARKABc ASAL2c ASHd ZIDA TENUd KABA TENU",
      "d OVER ASH TUG2 OVER TUG2 TUG2 OVER TUG2 PAPf OVER ASHh CROSSING ASH OVER ASH OVER ASH",
      "c ASH2c ASHGABc BAc BADc BAG3c BAHAR2c BALd OVER BALc BALAGc BARc BARA2c BId TIMES Ae GAR",
      "e IGI GUNUc BUd OVER BU ABf UNd CROSSING BUc BULUGd OVER BULUGc BURc BUR2c DAc DAG",
      "d KISIM5 TIMES A PLUS MASHf AMARf BALAGf BIf GAg PLUS MASHf GIf GIR2f GUDf HAf IRg PLUS LU",
      "f KAKf LAf LUg PLUS MASH2f LUMf NEf PAP PLUS PAPf SIf TAK4f U2 PLUS GIR2f USHc DAMc DAR",
      "c DARA3c DARA4c DIc DIBc DIMd TIMES SHEc DIM2c DINd KASKAL U GUNU DISHc DISHc DUd OVER DU",
      "d GUNUd SHESHIGc DUBd TIMES ESH2c DUB2c DUGc DUGUDc DUHc DUNc DUN3d GUNUe GUNUc DUN4c DUR2",
      "c Ed TIMES PAPd OVER E NUN OVER NUNc E2d TIMES A PLUS HA PLUS DAe GARe MIe SALe SHEe U",
      "c EDINc EGIRc ELc ENd TIMES GAN2f TENUe MEd CROSSING ENd OPPOSING ENd SQUAREDc ERENc ERIN2",
      "c ESH2c EZENd TIMES Af PLUS LALh TIMES LALe ANe BADe DUN3 GUNUg GUNUe HAf GUNUe IGI GUNU",
      "e KASKALf SQUAREDe KU3e LAe LAL TIMES LALe LIe LUe U2e UDc GAd GUNUc GA2",
      "d TIMES A PLUS DA PLUS HAg HAg IGIe AB2 TENU PLUS TABe ANe ASHe ASH2 PLUS GALe BAD",
      "e BAR PLUS RAe BURf PLUS RAe DAe DIe DIM TIMES SHEe DUBe ELf PLUS LAe ENf TIMES GAN2 TENU",
      "e GAN2 TENUe GARe GIe GI4f PLUS Ae GIR2 PLUS SUe HA PLUS LU PLUS ESH2e HALf PLUS LA",
      "e HI PLUS LIe HUB2e IGI GUNUe ISH PLUS HU PLUS ASHe KAKe KASKALe KIDf PLUS LALe KU3 PLUS AN",
      "e LAe ME PLUS ENe MIe NUNf OVER NUNe PAe SALe SARe SHEf PLUS TURe SHIDe SUMe TAK4e Ue UD",
      "f PLUS DUd OVER GA2c GABAd CROSSING GABAc GADd OVER GAD GAR OVER GARc GAL",
      "d GAD OVER GAD GAR OVER GARc GALAMc GAMc GANc GAN2d TENUd OVER GAN2d CROSSING GAN2c GAR",
      "c GAR3c GASHANc GESHTINd TIMES KURc GId TIMES Ee Ud CROSSING GIc GI4d OVER GI4",
      "d CROSSING GI4c GIDIMc GIR2d GUNUc GIR3d TIMES A PLUS IGIe GAN2 TENUe IGIe LU PLUS IGIe PA",
      "c GISALc GISHd CROSSING GISHd TIMES BADe TAK4d TENUc GUd CROSSING GUc GU2d TIMES KAK",
      "f TIMES IGI GUNUe NUNe SAL PLUS TUG2d GUNUc GUDd TIMES A PLUS KURe KURd OVER GUD LUGALc GUL",
      "c GUMd TIMES SHEc GURc GUR7c GURUNc GURUSHc HAd TENUd GUNUc HALc HId TIMES ASHe ASH2e BAD",
      "e DISHe GADe KINe NUNe SHEe Uc HUc HUB2d TIMES ANe HALe KASKALe LISHe UDc HUL2c Id Ac IB",
      "c IDIMd OVER IDIM BURf SQUAREDc IGc IGId DIBd RId OVER IGI SHIR OVER SHIR UD OVER UDd GUNU",
      "c ILd TIMES GAN2 TENUc IL2c IMd TIMES TAK4d CROSSING IMd OPPOSING IMd SQUAREDc IMINc INc IR",
      "c ISHc KAd TIMES Ae ADf PLUS KU3e ASH2e BADe BALAGe BARe BIe ERIN2e ESH2e GAe GAL",
      "e GAN2 TENUe GARf PLUS SHA3 PLUS Ae GIe GIR2e GISH PLUS SARf CROSSING GISHe GUe GUR7e IGI",
      "e IMe KAKe KIe KIDe LIe LUe MEf PLUS DUg GIg TEe MIf PLUS NUNUZe NEe NUNe PIe RUe SAe SAR",
      "e SHAe SHEe SHIDe SHUe SIGe SUHURe TARe Ue U2e UDe UMUM TIMES PAe USHe ZIc KA2",
      "d CROSSING KA2c KABc KAD2c KAD3c KAD4c KAD5d OVER KAD5c KAKd TIMES IGI GUNUc KALd TIMES BAD",
      "d CROSSING KALc KAM2c KAM4c KASKALd LAGAB TIMES U OVER LAGAB TIMES U",
      "d OVER KASKAL LAGAB TIMES U OVER LAGAB TIMES Uc KESH2c KId TIMES BADe Ue UDc KIDc KIN",
      "c KISALc KISHc KISIM5d OVER KISIM5c KUd OVER HI TIMES ASH2 KU OVER HI TIMES ASH2c KU3c KU4",
      "d VARIANT FORMc KU7c KULd GUNUc KUNc KURd OPPOSING KURc KUSHU2c KWU318c LAc LAGABd TIMES A",
      "f PLUS DA PLUS HAg GARg LALe ALe ANe ASH ZIDA TENUe BADe BIe DARe ENe GAe GARe GUD",
      "f PLUS GUDe HAe HALe HI TIMES NUNe IGI GUNUe IMf PLUS HAg LUe KIe KINe KU3e KUL",
      "f PLUS HI PLUS Ae LAGABe LISHe LUe LULe MEf PLUS ENe MUSHe NEe SHE PLUS SUM",
      "e SHITA PLUS GISH PLUS ERIN2h TENUe SHU2f PLUS SHU2e SUMe TAGe TAK4",
      "e TE PLUS A PLUS SU PLUS NAe Uf PLUS Ag U PLUS Ue U2 PLUS ASHe UDe USHd SQUAREDc LAGAR",
      "d TIMES SHEf PLUS SUMd GUNUe OVER LAGAR GUNU SHEc LAHSHUc LALd TIMES LALc LAMd TIMES KUR",
      "f PLUS RUc LIc LILc LIMMU2c LISHc LUd TIMES BADc LU2d TIMES ALe BADe ESH2f TENUe GAN2 TENU",
      "e HI TIMES BADe IMe KAD2e KAD3f PLUS ASHe KIe LA PLUS ASHe LAGABe ME PLUS ENe NEe NU",
      "e SI PLUS ASHe SIK2 PLUS BUe TUG2d TENUd CROSSING LU2d OPPOSING LU2d SQUAREDd SHESHIGc LU3",
      "c LUGALd OVER LUGALd OPPOSING LUGALd SHESHIGc LUHc LULc LUMd OVER LUMf GAR OVER GARc MA",
      "d TIMES TAK4d GUNUc MA2c MAHc MARc MASHc MASH2c MEc MESc MIc MINc MUd OVER MUc MUGd GUNU",
      "c MUNSUBc MURGU2c MUSHd TIMES Ae KURe ZAd OVER MUSHf TIMES A PLUS NAd CROSSING MUSHc MUSH3",
      "d TIMES Af PLUS DIe DId GUNUc NAc NA2c NAGAd INVERTEDd TIMES SHU TENUd OPPOSING NAGAc NAGAR",
      "c NAM NUTILLUdc NAM2c NEd TIMES Ae UDd SHESHIGc NId TIMES Ec NI2c NIMd TIMES GAN2 TENU",
      "e GAR PLUS GAN2 TENUc NINDA2d TIMES ANe ASHf PLUS ASHe GUDe ME PLUS GAN2 TENUe NEe NUNe SHE",
      "f PLUS A ANg ASHh PLUS ASHe U2 PLUS ASHe USHc NISAGc NUc NU11c NUNd LAGAR TIMES GARf MASH",
      "f SALg OVER NUN LAGAR TIMES SALf USHd TENUd OVER NUNd CROSSING NUNf LAGAR OVER LAGARc NUNUZ",
      "d AB2 TIMES ASHGABf BIf DUGf GUDf IGI GUNUf KAD3f LAf NEf SILA3f U2d KISIM5 TIMES BIg Uc PA",
      "c PADc PANc PAPc PESH2c PId TIMES Ae ABe BIe BUe Ee Ie IBe Ue U2d CROSSING PIc PIRIG",
      "d TIMES KALe UDe ZAd OPPOSING PIRIGc RAc RABc RIc RUc SAc SAG NUTILLUdd TIMES Ae DUe DUB",
      "e HAe KAKe KURe LUMe MIe NUNe SALe SHIDe TABe U2e UBe UMe URe USHd OVER SAGd GUNUc SAL",
      "d LAGAB TIMES ASH2c SANGA2c SARc SHAc SHA3d TIMES Ae BADe GISHe NEe SHU2e TURe Uf PLUS A",
      "c SHA6c SHAB6c SHAR2c SHEd HUd OVER SHE GAD OVER GAD GAR OVER GAR",
      "f TAB OVER TAB GAR OVER GARc SHEG9c SHENc SHESHc SHESH2c SHESHLAMc SHIDd TIMES Ae IMc SHIM",
      "d TIMES Ae BALe BULUGe DINe GARe IGIf GUNUe KUSHU2e LULe MUGe SALc SHINIGc SHIRd TENU",
      "d OVER SHIR BUR OVER BURc SHITAc SHUd OVER INVERTED SHUc SHU2c SHUBURc SId GUNUc SIGc SIG4",
      "d OVER SIG4 SHU2c SIK2c SILA3c SUd OVER SUc SUDc SUD2c SUHURc SUMc SUMASHc SURc SUR9c TA",
      "d ASTERISKd TIMES HIe MId GUNUc TABd OVER TAB NI OVER NI DISH OVER DISHd SQUAREDc TAG",
      "d TIMES BIe GUDe SHEe SHUe TUG2e UDc TAK4c TARc TEd GUNUc TId TENUc TILc TIRd TIMES TAK4",
      "d OVER TIRf GAD OVER GAD GAR OVER GARc TUc TUG2c TUKc TUMc TURd OVER TUR ZA OVER ZAc Ud GUD",
      "d U Ud OVER U PA OVER PA GAR OVER GARf SUR OVER SURf U REVERSED OVER U REVERSEDc U2c UBc UD",
      "d KUSHU2d TIMES BADe MIe U PLUS U PLUS Uj GUNUd GUNUd SHESHIGe TIMES BADc UDUGc UM",
      "d TIMES LAGABe ME PLUS DAe SHA3e Uc UMBINc UMUMd TIMES KASKALe PAc UNd GUNUc UR",
      "d CROSSING URd SHESHIGc UR2d TIMES A PLUS HAg NAe ALe HAe NUNe U2f PLUS ASHg BIc UR4c URI",
      "c URI3c URUd TIMES Ae ASHGABe BARe DUNe GAe GALe GAN2 TENUe GARe GUe HAe IGIe IMe ISHe KI",
      "e LUMe MINe PAe SHEe SIG4e TUe U PLUS GUDe UDe URUDAc URUDAd TIMES Uc USHd TIMES Ae KUe KUR",
      "e TAK4c USHXc USH2c USHUMXc UTUKIc UZ3d TIMES KASKALc UZUc ZAd TENUd SQUARED TIMES KURc ZAG",
      "c ZAMXc ZE2c ZId OVER ZIc ZI3c ZIBd KABA TENUc ZIGc ZIZ2c ZUc ZU5d TIMES Ac ZUBURc ZUM",
      "c KAP ELAMITEc AB TIMES NUNc AB2 TIMES Ac AMAR TIMES KUGc DAG KISIM5 TIMES U2 PLUS MASH",
      "c DAG3c DISH PLUS SHUc DUB TIMES SHEc EZEN TIMES GUDe SHEc GA2 TIMES AN PLUS KAK PLUS A",
      "e ASH2c GE22c GIGc HUSHc KA TIMES ANSHEe ASH3e GISHe GUDe HI TIMES ASH2e LUMe PAe SHULe TU",
      "e UR2c LAGAB TIMES GIc LU2 SHESHIG TIMES BADd TIMES ESH2 PLUS LALe SHUc MESH",
      "c MUSH3 TIMES ZAc NA4c NINc NIN9c NINDA2 TIMES BALe GIc NU11 ROTATED NINETY DEGREES",
      "c PESH2 ASTERISKc PIR2c SAG TIMES IGI GUNUc TI2c UM TIMES MEc U U"]⟩,
    ⟨0x12400, ["aCUNEIFORM NUMERIC SIGN TWO ASHd THREE ASHd FOUR ASHd FIVE ASHd SIX ASHd SEVEN ASH",
      "d EIGHT ASHd NINE ASHd THREE DISHd FOUR DISHd FIVE DISHd SIX DISHd SEVEN DISHd EIGHT DISH",
      "d NINE DISHd FOUR Ud FIVE Ud SIX Ud SEVEN Ud EIGHT Ud NINE Ud ONE GESH2d TWO GESH2",
      "d THREE GESH2d FOUR GESH2d FIVE GESH2d SIX GESH2d SEVEN GESH2d EIGHT GESH2d NINE GESH2",
      "d ONE GESHUd TWO GESHUd THREE GESHUd FOUR GESHUd FIVE GESHUd TWO SHAR2d THREE SHAR2",
      "f VARIANT FORMd FOUR SHAR2d FIVE SHAR2d SIX SHAR2d SEVEN SHAR2d EIGHT SHAR2d NINE SHAR2",
      "d ONE SHARUd TWO SHARUd THREE SHARUf VARIANT FORMd FOUR SHARUd FIVE SHARU",
      "d SHAR2 TIMES GAL PLUS DISHh MINd ONE BURUd TWO BURUd THREE BURUf VARIANT FORMd FOUR BURU",
      "d FIVE BURUd THREE VARIANT FORM ESH16g ESH21d FOUR VARIANT FORM LIMMUg LIMMU4g LIMMU Ah B",
      "d SIX VARIANT FORM ASH9d SEVEN VARIANT FORM IMIN3g IMIN Ah Bd EIGHT VARIANT FORM USSU",
      "g USSU3d NINE VARIANT FORM ILIMMUg ILIMMU3g ILIMMU4g ILIMMU Ad TWO ASH TENUd THREE ASH TENU",
      "d FOUR ASH TENUd FIVE ASH TENUd SIX ASH TENUd ONE BAN2d TWO BAN2d THREE BAN2d FOUR BAN2",
      "f VARIANT FORMd FIVE BAN2f VARIANT FORMd NIGIDAMINd NIGIDAESHd ONE ESHE3d TWO ESHE3",
      "d ONE THIRD DISHd TWO THIRDS DISHd FIVE SIXTHS DISHd ONE THIRD VARIANT FORM A",
      "d TWO THIRDS VARIANT FORM Ad ONE EIGHTH ASHe QUARTER ASHd OLD ASSYRIAN ONE SIXTHg QUARTER",
      "d ONE QUARTER GURe HALF GURd ELAMITE ONE THIRDe TWO THIRDSe FORTYe FIFTY",
      "d FOUR U VARIANT FORMd FIVE U VARIANT FORMd SIX U VARIANT FORMd SEVEN U VARIANT FORM",
      "d EIGHT U VARIANT FORMd NINE U VARIANT FORM"]⟩,
    ⟨0x12470, ["aCUNEIFORM PUNCTUATION SIGN OLD ASSYRIAN WORD DIVIDERd VERTICAL COLON",
      "d DIAGONAL COLONe TRICOLONe QUADCOLON"]⟩,
    ⟨0x12480, ["aCUNEIFORM SIGN AB TIMES NUN TENUe SHU2c AD TIMES ESH2c BAD TIMES DISH TENU",
      "c BAHAR2 TIMES AB2e NIe ZAc BU OVER BU TIMES NA2c DA TIMES TAK4c DAG TIMES KUR",
      "c DIM TIMES IGIe U U Uc DIM2 TIMES UDc DUG TIMES ANSHEe ASHf AT LEFTe DINe DUNe ERIN2e GA",
      "e GIe GIR2 GUNUe GISHe HAe HIe IGI GUNUe KASKALe KURe KUSHU2f PLUS KASKALe LAK-020e LAM",
      "f TIMES KURe LUH PLUS GISHe MASHe MESe MIe NIe PIe SHEe SI GUNUc E2 TIMES KURe PAPc ERIN2 X",
      "c ESH2 CROSSING ESH2c EZEN SHESHIG TIMES ASHf HIf IGI GUNUf LAf LALf MEf MESf SUd TIMES SU",
      "c GA2 TIMES BAHAR2e DIM GUNUe DUG TIMES IGI GUNUg KASKALe ERENe GAe GAR PLUS DIg NE",
      "e HA PLUS Ae KUSHU2 PLUS KASKALe LAMf TIMES KURe LUHe MUSHe NEf PLUS E2g GIe SHIMe ZIZ2",
      "c GABA ROTATED NINETY DEGREESc GESHTIN TIMES Uc GISH TIMES GISH CROSSING GISH",
      "c GU2 TIMES IGI GUNUc GUD PLUS GISH TIMES TAK4c HA TENU GUNU",
      "c HI TIMES ASH OVER HI TIMES ASHc KA TIMES BUe KAe U U Ue URc LAGAB TIMES ZU OVER ZU",
      "c LAK-003d-021d-025d-030d-050d-051d-062d-079 OVER LAK-079 GUNUd-080d-081 OVER LAK-081d-092",
      "d-130d-142d-210d-219d-220d-225d-228d-238d-265d-266d-343d-347d-348d-383d-384d-390d-441d-449",
      "e TIMES GUf IGIf PAP PLUS LU3h PAP PLUS LU3f U2 PLUS BAd-450d-457d-470d-483d-490d-492d-493",
      "d-495d-550d-608d-617e TIMES ASHf BADf DUN3 GUNU GUNUf KU3f LAf TARf TEf U2f UDf URUDAd-636",
      "d-648e TIMES DUBf GAf IGIg GUNUf NIf PAP PLUS PAP PLUS LU3f SHESH PLUS KIf UDf URUDAd-724",
      "d-749c LU2 GUNU TIMES ASHd TIMES DISHe HALe PAPf PLUS PAP PLUS LU3e TAK4c MI PLUS ZA7",
      "c MUSH OVER MUSH TIMES GAg KAKc NINDA2 TIMES DIM GUNUe GISHe GULe HIe KESH2e LAK-050e MASH",
      "e PAP PLUS PAPe Uf PLUS Ue URUDAc SAG GUNU TIMES HAd TIMES ENe SHE AT LEFTe TAK4c SHA6 TENU",
      "c SHE OVER SHEd PLUS HUB2e NAM2e SARc SHU2 PLUS DUG TIMES NIe E2 TIMES ANc SI TIMES TAK4",
      "c TAK4 PLUS SAGc TUM TIMES GAN2 TENUe THREE DISHc UR2 INVERTEDd TIMES UDc URU TIMES DARA3",
      "e LAK-668e LU3c ZA7c ZU OVER ZU PLUS SARc ZU5 TIMES THREE DISH TENU"]⟩,
    ⟨0x12F90, ["aCYPRO-MINOAN SIGN CM001d CM002d CM004d CM005d CM006d CM007d CM008d CM009d CM010",
      "d CM011d CM012d CM012Bd CM013d CM015d CM017d CM019d CM021d CM023d CM024d CM025d CM026",
      "d CM027d CM028d CM029d CM030d CM033d CM034d CM035d CM036d CM037d CM038d CM039d CM040d CM041",
      "d CM044d CM046d CM047d CM049d CM050d CM051d CM052d CM053d CM054d CM055d CM056d CM058d CM059",
      "d CM060d CM061d CM062d CM063d CM064d CM066d CM067d CM068d CM069d CM070d CM071d CM072d CM073",
      "d CM074d CM075d CM075Bd CM076d CM078d CM079d CM080d CM081d CM082d CM083d CM084d CM085",
      "d CM086d CM087d CM088d CM089d CM090d CM091d CM092d CM094d CM095d CM096d CM097d CM098d CM099",
      "d CM100d CM101d CM102d CM103d CM104d CM105d CM107d CM108d CM109d CM110d CM112d CM114d CM301",
      "d CM302"]⟩,
    ⟨0x13000, ["aEGYPTIAN HIEROGLYPH A001c A002c A003c A004c A005c A005Ac A006c A006Ac A006Bc A007",
      "c A008c A009c A010c A011c A012c A013c A014c A014Ac A015c A016c A017c A017Ac A018c A019",
      "c A020c A021c A022c A023c A024c A025c A026c A027c A028c A029c A030c A031c A032c A032Ac A033",
      "c A034c A035c A036c A037c A038c A039c A040c A040Ac A041c A042c A042Ac A043c A043Ac A044",
      "c A045c A045Ac A046c A047c A048c A049c A050c A051c A052c A053c A054c A055c A056c A057c A058",
      "c A059c A060c A061c A062c A063c A064c A065c A066c A067c A068c A069c A070c B001c B002c B003",
      "c B004c B005c B005Ac B006c B007c B008c B009c C001c C002c C002Ac C002Bc C002Cc C003c C004",
      "c C005c C006c C007c C008c C009c C010c C010Ac C011c C012c C013c C014c C015c C016c C017c C018",
      "c C019c C020c C021c C022c C023c C024c D001c D002c D003c D004c D005c D006c D007c D008c D008A",
      "c D009c D010c D011c D012c D013c D014c D015c D016c D017c D018c D019c D020c D021c D022c D023",
      "c D024c D025c D026c D027c D027Ac D028c D029c D030c D031c D031Ac D032c D033c D034c D034A",
      "c D035c D036c D037c D038c D039c D040c D041c D042c D043c D044c D045c D046c D046Ac D047c D048",
      "c D048Ac D049c D050c D050Ac D050Bc D050Cc D050Dc D050Ec D050Fc D050Gc D050Hc D050Ic D051",
      "c D052c D052Ac D053c D054c D054Ac D055c D056c D057c D058c D059c D060c D061c D062c D063",
      "c D064c D065c D066c D067c D067Ac D067Bc D067Cc D067Dc D067Ec D067Fc D067Gc D067Hc E001",
      "c E002c E003c E004c E005c E006c E007c E008c E008Ac E009c E009Ac E010c E011c E012c E013",
      "c E014c E015c E016c E016Ac E017c E017Ac E018c E019c E020c E020Ac E021c E022c E023c E024",
      "c E025c E026c E027c E028c E028Ac E029c E030c E031c E032c E033c E034c E034Ac E036c E037",
      "c E038c F001c F001Ac F002c F003c F004c F005c F006c F007c F008c F009c F010c F011c F012c F013",
      "c F013Ac F014c F015c F016c F017c F018c F019c F020c F021c F021Ac F022c F023c F024c F025",
      "c F026c F027c F028c F029c F030c F031c F031Ac F032c F033c F034c F035c F036c F037c F037A",
      "c F038c F038Ac F039c F040c F041c F042c F043c F044c F045c F045Ac F046c F046Ac F047c F047A",
      "c F048c F049c F050c F051c F051Ac F051Bc F051Cc F052c F053c G001c G002c G003c G004c G005",
      "c G006c G006Ac G007c G007Ac G007Bc G008c G009c G010c G011c G011Ac G012c G013c G014c G015",
      "c G016c G017c G018c G019c G020c G020Ac G021c G022c G023c G024c G025c G026c G026Ac G027",
      "c G028c G029c G030c G031c G032c G033c G034c G035c G036c G036Ac G037c G037Ac G038c G039",
      "c G040c G041c G042c G043c G043Ac G044c G045c G045Ac G046c G047c G048c G049c G050c G051",
      "c G052c G053c G054c H001c H002c H003c H004c H005c H006c H006Ac H007c H008c I001c I002c I003",
      "c I004c I005c I005Ac I006c I007c I008c I009c I009Ac I010c I010Ac I011c I011Ac I012c I013",
      "c I014c I015c K001c K002c K003c K004c K005c K006c K007c K008c L001c L002c L002Ac L003c L004",
      "c L005c L006c L006Ac L007c L008c M001c M001Ac M001Bc M002c M003c M003Ac M004c M005c M006",
      "c M007c M008c M009c M010c M010Ac M011c M012c M012Ac M012Bc M012Cc M012Dc M012Ec M012F",
      "c M012Gc M012Hc M013c M014c M015c M015Ac M016c M016Ac M017c M017Ac M018c M019c M020c M021",
      "c M022c M022Ac M023c M024c M024Ac M025c M026c M027c M028c M028Ac M029c M030c M031c M031A",
      "c M032c M033c M033Ac M033Bc M034c M035c M036c M037c M038c M039c M040c M040Ac M041c M042",
      "c M043c M044c N001c N002c N003c N004c N005c N006c N007c N008c N009c N010c N011c N012c N013",
      "c N014c N015c N016c N017c N018c N018Ac N018Bc N019c N020c N021c N022c N023c N024c N025",
      "c N025Ac N026c N027c N028c N029c N030c N031c N032c N033c N033Ac N034c N034Ac N035c N035A",
      "c N036c N037c N037Ac N038c N039c N040c N041c N042c NL001c NL002c NL003c NL004c NL005",
      "c NL005Ac NL006c NL007c NL008c NL009c NL010c NL011c NL012c NL013c NL014c NL015c NL016",
      "c NL017c NL017Ac NL018c NL019c NL020c NU001c NU002c NU003c NU004c NU005c NU006c NU007",
      "c NU008c NU009c NU010c NU010Ac NU011c NU011Ac NU012c NU013c NU014c NU015c NU016c NU017",
      "c NU018c NU018Ac NU019c NU020c NU021c NU022c NU022Ac O001c O001Ac O002c O003c O004c O005",
      "c O005Ac O006c O006Ac O006Bc O006Cc O006Dc O006Ec O006Fc O007c O008c O009c O010c O010A",
      "c O010Bc O010Cc O011c O012c O013c O014c O015c O016c O017c O018c O019c O019Ac O020c O020A",
      "c O021c O022c O023c O024c O024Ac O025c O025Ac O026c O027c O028c O029c O029Ac O030c O030A",
      "c O031c O032c O033c O033Ac O034c O035c O036c O036Ac O036Bc O036Cc O036Dc O037c O038c O039",
      "c O040c O041c O042c O043c O044c O045c O046c O047c O048c O049c O050c O050Ac O050Bc O051",
      "c P001c P001Ac P002c P003c P003Ac P004c P005c P006c P007c P008c P009c P010c P011c Q001",
      "c Q002c Q003c Q004c Q005c Q006c Q007c R001c R002c R002Ac R003c R003Ac R003Bc R004c R005",
      "c R006c R007c R008c R009c R010c R010Ac R011c R012c R013c R014c R015c R016c R016Ac R017",
      "c R018c R019c R020c R021c R022c R023c R024c R025c R026c R027c R028c R029c S001c S002c S002A",
      "c S003c S004c S005c S006c S006Ac S007c S008c S009c S010c S011c S012c S013c S014c S014A",
      "c S014Bc S015c S016c S017c S017Ac S018c S019c S020c S021c S022c S023c S024c S025c S026",
      "c S026Ac S026Bc S027c S028c S029c S030c S031c S032c S033c S034c S035c S035Ac S036c S037",
      "c S038c S039c S040c S041c S042c S043c S044c S045c S046c T001c T002c T003c T003Ac T004c T005",
      "c T006c T007c T007Ac T008c T008Ac T009c T009Ac T010c T011c T011Ac T012c T013c T014c T015",
      "c T016c T016Ac T017c T018c T019c T020c T021c T022c T023c T024c T025c T026c T027c T028c T029",
      "c T030c T031c T032c T032Ac T033c T033Ac T034c T035c T036c U001c U002c U003c U004c U005",
      "c U006c U006Ac U006Bc U007c U008c U009c U010c U011c U012c U013c U014c U015c U016c U017",
      "c U018c U019c U020c U021c U022c U023c U023Ac U024c U025c U026c U027c U028c U029c U029A",
      "c U030c U031c U032c U032Ac U033c U034c U035c U036c U037c U038c U039c U040c U041c U042c V001",
      "c V001Ac V001Bc V001Cc V001Dc V001Ec V001Fc V001Gc V001Hc V001Ic V002c V002Ac V003c V004",
      "c V005c V006c V007c V007Ac V007Bc V008c V009c V010c V011c V011Ac V011Bc V011Cc V012c V012A",
      "c V012Bc V013c V014c V015c V016c V017c V018c V019c V020c V020Ac V020Bc V020Cc V020Dc V020E",
      "c V020Fc V020Gc V020Hc V020Ic V020Jc V020Kc V020Lc V021c V022c V023c V023Ac V024c V025",
      "c V026c V027c V028c V028Ac V029c V029Ac V030c V030Ac V031c V031Ac V032c V033c V033Ac V034",
      "c V035c V036c V037c V037Ac V038c V039c V040c V040Ac W001c W002c W003c W003Ac W004c W005",
      "c W006c W007c W008c W009c W009Ac W010c W010Ac W011c W012c W013c W014c W014Ac W015c W016",
      "c W017c W017Ac W018c W018Ac W019c W020c W021c W022c W023c W024c W024Ac W025c X001c X002",
      "c X003c X004c X004Ac X004Bc X005c X006c X006Ac X007c X008c X008Ac Y001c Y001Ac Y002c Y003",
      "c Y004c Y005c Y006c Y007c Y008c Z001c Z002c Z002Ac Z002Bc Z002Cc Z002Dc Z003c Z003Ac Z003B",
      "c Z004c Z004Ac Z005c Z005Ac Z006c Z007c Z008c Z009c Z010c Z011c Z012c Z013c Z014c Z015",
      "c Z015Ac Z015Bc Z015Cc Z015Dc Z015Ec Z015Fc Z015Gc Z015Hc Z015Ic Z016c Z016Ac Z016Bc Z016C",
      "c Z016Dc Z016Ec Z016Fc Z016Gc Z016Hc AA001c AA002c AA003c AA004c AA005c AA006c AA007",
      "c AA007Ac AA007Bc AA008c AA009c AA010c AA011c AA012c AA013c AA014c AA015c AA016c AA017",
      "c AA018c AA019c AA020c AA021c AA022c AA023c AA024c AA025c AA026c AA027c AA028c AA029c AA030",
      "c AA031c AA032"]⟩,
    ⟨0x13430, ["aEGYPTIAN HIEROGLYPH VERTICAL JOINERc HORIZONTAL JOINERc INSERT AT TOP START",
      "e BOTTOM STARTe TOP ENDe BOTTOM ENDc OVERLAY MIDDLEc BEGIN SEGMENTc END SEGMENT"]⟩,
    ⟨0x14400, ["aANATOLIAN HIEROGLYPH A001c A002c A003c A004c A005c A006c A007c A008c A009c A010",
      "c A010Ac A011c A012c A013c A014c A015c A016c A017c A018c A019c A020c A021c A022c A023c A024",
      "c A025c A026c A026Ac A027c A028c A029c A030c A031c A032c A033c A034c A035c A036c A037c A038",
      "c A039c A039Ac A040c A041c A041Ac A042c A043c A044c A045c A045Ac A046c A046Ac A046Bc A047",
      "c A048c A049c A050c A051c A052c A053c A054c A055c A056c A057c A058c A059c A060c A061c A062",
      "c A063c A064c A065c A066c A066Ac A066Bc A066Cc A067c A068c A069c A070c A071c A072c A073",
      "c A074c A075c A076c A077c A078c A079c A080c A081c A082c A083c A084c A085c A086c A087c A088",
      "c A089c A090c A091c A092c A093c A094c A095c A096c A097c A097Ac A098c A098Ac A099c A100",
      "c A100Ac A101c A101Ac A102c A102Ac A103c A104c A104Ac A104Bc A104Cc A105c A105Ac A105B",
      "c A106c A107c A107Ac A107Bc A107Cc A108c A109c A110c A110Ac A110Bc A111c A112c A113c A114",
      "c A115c A115Ac A116c A117c A118c A119c A120c A121c A122c A123c A124c A125c A125Ac A126",
      "c A127c A128c A129c A130c A131c A132c A133c A134c A135c A135Ac A136c A137c A138c A139c A140",
      "c A141c A142c A143c A144c A145c A146c A147c A148c A149c A150c A151c A152c A153c A154c A155",
      "c A156c A157c A158c A159c A160c A161c A162c A163c A164c A165c A166c A167c A168c A169c A170",
      "c A171c A172c A173c A174c A175c A176c A177c A178c A179c A180c A181c A182c A183c A184c A185",
      "c A186c A187c A188c A189c A190c A191c A192c A193c A194c A195c A196c A197c A198c A199c A200",
      "c A201c A202c A202Ac A202Bc A203c A204c A205c A206c A207c A207Ac A208c A209c A209Ac A210",
      "c A211c A212c A213c A214c A215c A215Ac A216c A216Ac A217c A218c A219c A220c A221c A222",
      "c A223c A224c A225c A226c A227c A227Ac A228c A229c A230c A231c A232c A233c A234c A235c A236",
      "c A237c A238c A239c A240c A241c A242c A243c A244c A245c A246c A247c A248c A249c A250c A251",
      "c A252c A253c A254c A255c A256c A257c A258c A259c A260c A261c A262c A263c A264c A265c A266",
      "c A267c A267Ac A268c A269c A270c A271c A272c A273c A274c A275c A276c A277c A278c A279c A280",
      "c A281c A282c A283c A284c A285c A286c A287c A288c A289c A289Ac A290c A291c A292c A293c A294",
      "c A294Ac A295c A296c A297c A298c A299c A299Ac A300c A301c A302c A303c A304c A305c A306",
      "c A307c A308c A309c A309Ac A310c A311c A312c A313c A314c A315c A316c A317c A318c A319c A320",
      "c A321c A322c A323c A324c A325c A326c A327c A328c A329c A329Ac A330c A331c A332Ac A332B",
      "c A332Cc A333c A334c A335c A336c A336Ac A336Bc A336Cc A337c A338c A339c A340c A341c A342",
      "c A343c A344c A345c A346c A347c A348c A349c A350c A351c A352c A353c A354c A355c A356c A357",
      "c A358c A359c A359Ac A360c A361c A362c A363c A364c A364Ac A365c A366c A367c A368c A368A",
      "c A369c A370c A371c A371Ac A372c A373c A374c A375c A376c A377c A378c A379c A380c A381",
      "c A381Ac A382c A383 RA OR RIc A383Ac A384c A385c A386c A386Ac A387c A388c A389c A390c A391",
      "c A392c A393 EIGHTc A394c A395c A396c A397c A398c A399c A400c A401c A402c A403c A404c A405",
      "c A406c A407c A408c A409c A410 BEGIN LOGOGRAM MARKc A410A END LOGOGRAM MARKc A411c A412",
      "c A413c A414c A415c A416c A417c A418c A419c A420c A421c A422c A423c A424c A425c A426c A427",
      "c A428c A429c A430c A431c A432c A433c A434c A435c A436c A437c A438c A439c A440c A441c A442",
      "c A443c A444c A445c A446c A447c A448c A449c A450c A450Ac A451c A452c A453c A454c A455c A456",
      "c A457c A457Ac A458c A459c A460c A461c A462c A463c A464c A465c A466c A467c A468c A469c A470",
      "c A471c A472c A473c A474c A475c A476c A477c A478c A479c A480c A481c A482c A483c A484c A485",
      "c A486c A487c A488c A489c A490c A491c A492c A493c A494c A495c A496c A497c A501c A502c A503",
      "c A504c A505c A506c A507c A508c A509c A510c A511c A512c A513c A514c A515c A516c A517c A518",
      "c A519c A520c A521c A522c A523c A524c A525c A526c A527c A528c A529c A530"]⟩,
    ⟨0x16800, ["aBAMUM LETTER PHASE-A NGKUE MFONe GBIEE FONe PON MFON PIPAEMGBIEEg PIPAEMBA",
      "e NAA MFONe SHUENSHUETe TITA MFONe NZA MFONe SHINDA PA NJIe PON PA NJI PIPAEMGBIEE",
      "h PIPAEMBAe MAEMBGBIEEe TU MAEMBAe NGANGUe MAEMVEUXe MANSUAEe MVEUAENGAMe SEUNYAMe NTOQPEN",
      "e KEUKEUTNDAe NKINDIe SUUe NGKUENZEUMe LAPAQe LET KUTe NTAP MFAAe MAEKEUPe PASHAE",
      "e GHEUAERAEe PAMSHAEe MON NGGEUAETe NZUN MEUTe U YUQ NAEe GHEUAEGHEUAEe NTAP NTAAe SISA",
      "e MGBASAe MEUNJOMNDEUQe MOOMPUQe KAFAe PA LEERAEWAe NDA LEERAEWAe PETe MAEMKPENe NIKAe PUP",
      "e TUAEPe LUAEPe SONJAMe TEUTEUWENe MAENYIe KETe NDAANGGEUAETe KUOQe MOOMEUTe SHUMe LOMMAE",
      "e FIRIe ROMe KPOQe SOQe MAP PIEETe SHIRAEe NTAPe SHOQ NSHUT YUMe NYIT MONGKEUAEQe PAARAE",
      "e NKAARAEe UNKNOWNe NGGENe MAESIe NJAMe MBANYIe NYETe TEUAENe SOTe PAAMe NSHIEEe MAEMe NYI",
      "e KAQe NSHAe VEEe LUe NENe NAQe MBAQd-B NSHUETe TU MAEMGBIEEe SIEEe SET TUe LOM NTEUM",
      "e MBA MAELEEe KIEEMe YEURAEe MBAARAEe KAMe PEESHIe YAFU LEERAEWAe LAM NSHUT NYAM",
      "e NTIEE SHEUOQe NDU NJAAe GHEUGHEUAEMe PITe TU NSIEEe SHET NJAQe SHEUAEQTUe MFON TEUAEQ",
      "e MBIT MBAAKETe NYI NTEUMe KEUPUQe GHEUGHENe KEUYEUXe LAANAEe PARUMe VEUMe NGKINDI MVOP",
      "e NGGEU MBUe WUAETe SAKEUAEe TAAMe MEUQe NGGUOQf LARGEe MFIYAQe SUEe MBEURIe MONTIEEN",
      "e NYAEMAEe PUNGAAMe MEUT NGGEETe FEUXe MBUOQe FEEe KEUAEMe MA NJEUAENAf NJUQAe LETe NGGAAM",
      "e NSENe MAe KIQe NGOMd-C NGKUE MAEMBAe NZAe YUMe WANGKUOQe NGGENe NDEUAEREEe NGKAQe GHARAE",
      "e MBEEKEETe GBAYIe NYIR MKPARAQ MEUNe NTU MBITe MBEUMe PIRIEENe NDOMBUe MBAA CABBAGE-TREE",
      "e KEUSHEUAEPe GHAPe KEUKAQe YU MUOMAEe NZEUMe MBUEe NSEUAENe MBITe YEUQe KPARAQe KAAe SEUX",
      "e NDIDAe TAASHAEe NJUEQe TITA YUEe SUAETe NGGUAEN NYAMe VEUXe NANSANAQe MA KEUAERIe NTAA",
      "e NGGUONe LAPe MBIRIEENe MGBASAQe NTEUNGBAe TEUTEUXe NGGUMe FUEe NDEUTe NSAe NSHAQe BUNG",
      "e VEUAEPENe MBERAEe RUe NJAEMe LAMe TITUAEPe NSUOT NGOMe NJEEEEe KETe NGGUe MAESIe MBUAEM",
      "e LUe KUTe NJAMe NGOMe WUPe NGGUEETe NSOMe NTENe KUOP NKAARAEe NSUNe NDAMe MA NSIEEe YAA",
      "e NDAPe SHUEQe SETFONe MBIe MAEMBAe MBANYIe KEUSEUXe MBEUXe KEUMe MBAA PICKETe YUWOQe NJEUX",
      "e MIEEe MUAEe SHIQe KEN LAWf FATIGUEe NGAQe NAQe LIQe PINe PENe TETd-D MBUOe WAPe NJIe MFON",
      "e NJIEEe LIEEe NJEUTe NSHEEe NGGAAMAEe NYAMe WUAENe NGKUNe SHEEe NGKAPe KEUAETMEUNe TEUT",
      "e SHEUAEe NJAPe SUEe KETe YAEMMAEe KUOMe SAPe MFEUTe NDEUXe MALEERIe MEUTe SEUAEQe YEN",
      "e NJEUAEMe KEUOT MBUAEe NGKEURIe TUe GHAAe NGKYEEe FEUFEUAETe NDEEe MGBOFUMe LEUAEPe NDON",
      "e MONIe MGBEUNe PUUTe MGBIEEe MFOe LUMe NSIEEPe MBAAe KWAETe NYETe TEUAENe SOTe YUWOQe KEUM",
      "e RAEMe TEEEEe NGKEUAEQe MFEUAEe NSIEETe KEUPe PIPe PEUTAEe NYUEe LETe NGGAAMe MFIEE",
      "e NGGWAENe YUOMe PAPe YUOPe NDAMe NTEUMe SUAEe KUNe NGGEUXe NGKIEEe TUOTe MEUNe KUQe NSUM",
      "e TEUNe MAENJETe NGGAPe LEUMe NGGUOMe NSHUTe NJUEQe GHEUAEe KUe REN OLDe TAEe TOQe NYIe RII",
      "e LEEEEe MEEEEe Me SUUe MUe SHIIe SHEUXe KYEEe NUe SHUe NTEEe PEEe NIe SHOQe PUQe MVOPe LOQ",
      "e REN MUCHe TIe NTUUe MBAA SEVENe SAQe FAAd-E NDAPe TOONe MBEUMe LAPe VOMe LOONe PAAe SOM",
      "e RAQe NSHUOPe NDUNe PUAEe TAMe NGKAe KPEUXe WUOe SEEe NGGEUAETe PAAMe TOOe KUOPe LOM",
      "e NSHIEEe NGOPe MAEMe NGKEUXe NGOQe NSHUEe RIMGBAe NJEUXe PEEMe SAAe NGGURAEe MGBAe GHEUX",
      "e NGKEUAEMe NJAEMLIe MAPe LOOTe NGGEEEEe NDIQe TAEN NTEUMe SETe PUMe NDAA SOFTNESS",
      "e NGGUAESHAE NYAMe YIEEe GHEUNe TUAEe YEUAEe POe TUMAEe KEUAEe SUAENe TEUAEQe VEUAEe WEUX",
      "e LAAMe PUe TAAQe GHAAMAEe NGEUREUTe SHEUAEQe MGBENe MBEEe NZAQe NKOMe GBETe TUMe KUETe YAP",
      "e NYI CLEAVERe YITe MFEUQe NDIAQe PIEEQe YUEQe LEUAEMe FUEe GBEUXe NGKUPe KETe MAEe NGKAAMI",
      "e GHETe FAe NTUMe PEUTe YEUMe NGGEUAEe NYI BETWEENe NZUQe POONe MIEEe FUETe NAEe MUAE",
      "e GHEUAEe FU Ie MVIe PUAQe NGKUMe KUTe PIETe NTAPe YEUAETe NGGUPe PA PEOPLEe FU CALLe FOM",
      "e NJEEe Ae TOQe Oe Ie LAQe PA PLURALe TAAe TAQe NDAA MY HOUSEe SHIQe YEUXe NGUAEe YUAEN",
      "e YOQ SWIMMINGf COVERe YUQe YUNe KEUXe PEUXe NJEE EPOCHe PUEe WUEe FEEe VEEe LUe MIe REUX",
      "e RAEe NGUAETe NGAe SHOe SHOQe FU REMEDYe NAe PIe LOQe KOe MENe MAe MAQe TEUe KIe MONe TEN",
      "e FAQe GHOMd-F KAe Ue KUe EEe REEe TAEe NYIe LAe RIIe RIEEe MEEEEe TAAe NDAAe NJAEMe Me SUU",
      "e SHIIe SIe SEUXe KYEEe KETe NUAEe NUe NJUAEe YOQe SHUe YAe NSHAe PEUXe NTEEe WUEe PEEe RU",
      "e NIe REUXe KENe NGKWAENe NGGAe SHOe PUAEe FOMe WAe LIe LOQe KOe MBENe RENe MAe MOe MBAA",
      "e TETe KPAe SAMBAe VUEQ"]⟩,
    ⟨0x16A40, ["aMRO LETTER TAc NGIc YOc MIMc BAc DAc Ac PHIc KHAIc HAOc DAIc CHUc KEAAEc OLc MAEM",
      "c NINc PAc OOc Oc ROc SHIc THEAc EAc WAc Ec KOc LANc LAc HAIc RIc TEK"]⟩,
    ⟨0x16A60, ["aMRO DIGIT ZEROc ONEc TWOc THREEc FOURc FIVEc SIXc SEVENc EIGHTc NINE"]⟩,
    ⟨0x16A6E, ["aMRO DANDAb DOUBLE DANDAaTANGSA LETTER OZc OCc OQc OXc AZc ACc AQc AXc VZc VCc VQ",
      "c VXc EZc ECc EQc EXc IZc ICc IQc IXc UZc UCc UQc UXc AWZc AWCc AWQc AWXc UIZc UICc UIQ",
      "c UIXc FINAL NGc LONG UEXc SHORT UEZd AWXc UECc UEZc UEQc UEXc UIUZc UIUCc UIUQc UIUXc MZ",
      "c MCc MQc MXc KAc KHAc GAc NGAc SAc YAc WAc PAc NYAc PHAc BAc MAc NAc HAc LAc HTAc TAc DA",
      "c RAc NHAc SHAc CAc TSAc GHAc HTTAc THAc XAc FAc DHAc CHAc ZA"]⟩,
    ⟨0x16AC0, ["aTANGSA DIGIT ZEROc ONEc TWOc THREEc FOURc FIVEc SIXc SEVENc EIGHTc NINE"]⟩,
    ⟨0x16AD0, ["aBASSA VAH LETTER ENNId KAd SEd FAd MBEd YIEd GAHd DHIId KPAHd JOd HWAHd WAd ZO",
      "d GBUd DOd CEd UWUd TOd BAd VUd YEINd PAd WADDAd Ad Od OOd Ud EEd Ed I"]⟩,
    ⟨0x16AF0, ["aBASSA VAH COMBINING HIGH TONEd LOW TONEd MID TONEd LOW-MID TONEd HIGH-LOW TONE",
      "c FULL STOP"]⟩,
    ⟨0x16B00, ["aPAHAWH HMONG VOWEL KEEBd KEEVd KIBd KIVd KAUBd KAUVd KUBd KUVd KEBd KEVd KAIB",
      "d KAIVd KOOBd KOOVd KAWBd KAWVd KUABd KUAVd KOBd KOVd KIABd KIAVd KABd KAVd KWBd KWVd KAAB",
      "d KAAVc CONSONANT VAUd NTSAUd LAUd HAUd NLAUd RAUd NKAUd QHAUd YAUd HLAUd MAUd CHAUd NCHAU",
      "d HNAUd PLHAUd NTHAUd NAUd AUd XAUd CAUc MARK CIM TUBe SOe KESe KHAVe SUAMe HOMe TAUM",
      "c SIGN VOS THOMe TSHAB CEEBd CIM CHEEMd VOS THIABe FEEMd XYEEM NTXIVe RHOe TOVe FAIB",
      "d VOS SEEVd MEEJ SUABd VOS NRUAd IB YAMd XAUSd CIM TSOV ROG"]⟩,
    ⟨0x16B50, ["aPAHAWH HMONG DIGIT ZEROd ONEd TWOd THREEd FOURd FIVEd SIXd SEVENd EIGHTd NINE"]⟩,
    ⟨0x16B5B, ["aPAHAWH HMONG NUMBER TENSd HUNDREDSd TEN THOUSANDSd MILLIONSd HUNDRED MILLIONS",
      "d TEN BILLIONSd TRILLIONS"]⟩,
    ⟨0x16B63, ["aPAHAWH HMONG SIGN VOS LUBd XYOOd HLId THIRD-STAGE HLId ZWJ THAJd HNUBd NQIGd XIAB",
      "d NTUJd AVd TXHEEJ CEEVd MEEJ TSEEBd TAUd LOSd MUSd CIM HAIS LUS NTOG NTOGe CUAM TSHOOJ",
      "e TXWVf CHWVe PUB DAWBe NRES TOS"]⟩,
    ⟨0x16B7D, ["aPAHAWH HMONG CLAN SIGN TSHEEJe YEEGe LISe LAUJe XYOOJe KOOe HAWJe MUASe THOJ",
      "e TSABe PHABe KHABe HAMe VAJe FAJe YAJe TSWBe KWMe VWJ"]⟩,
    ⟨0x16E40, ["aMEDEFAIDRIN CAPITAL LETTER Md Sd Vd Wd ATIUd Zd KPd Pd Td Gd Fd Id Kd Ad Jd Ed B",
      "d Cd Ud YUd Ld Qd HPd NYd Xd Dd OEd Nd Rd Od AId Yb SMALL LETTER Md Sd Vd Wd ATIUd Zd KPd P",
      "d Td Gd Fd Id Kd Ad Jd Ed Bd Cd Ud YUd Ld Qd HPd NYd Xd Dd OEd Nd Rd Od AId Yb DIGIT ZERO",
      "c ONEc TWOc THREEc FOURc FIVEc SIXc SEVENc EIGHTc NINEb NUMBER TENc ELEVENc TWELVE",
      "c THIRTEENc FOURTEENc FIFTEENc SIXTEENc SEVENTEENc EIGHTEENc NINETEEN",
      "b DIGIT ONE ALTERNATE FORMc TWO ALTERNATE FORMc THREE ALTERNATE FORMb COMMAb FULL STOP",
      "b SYMBOL AIVAb EXCLAMATION OH"]⟩,
    ⟨0x16F00, ["aMIAO LETTER PAc BAc YI PAc PLAc MAc MHAc ARCHAIC MAc FAc VAc VFAc TAc DAc YI TTA",
      "d TAc TTAc DDAc NAc NHAc YI NNAc ARCHAIC NAc NNAc NNHAc LAc LYAc LHAc LHYAc TLHAc DLHA",
      "c TLHYAc DLHYAc KAc GAc YI KAc QAc QGAc NGAc NGHAc ARCHAIC NGAc HAc XAc GHAc GHHAc TSSA",
      "c DZZAc NYAc NYHAc TSHAc DZHAc YI TSHAd DZHAc REFORMED TSHAc SHAc SSAc ZHAc ZSHAc TSAc DZA",
      "c YI TSAc SAc ZAc ZSAc ZZAc ZZSAc ARCHAIC ZZAc ZZYAc ZZSYAc WAc AHc HHAc BRIc SYIc DZYIc TE",
      "c TSEc RTE"]⟩,
    ⟨0x16F4F, ["aMIAO SIGN CONSONANT MODIFIER BARb LETTER NASALIZATIONb SIGN ASPIRATION",
      "c REFORMED VOICINGd ASPIRATIONb VOWEL SIGN Ad AAd AHHd ANd ANGd Od OOd WOd Wd Ed ENd ENG",
      "d OEYd Id IAd IANd IANGd IOd IEd IId IUd INGd Ud UAd UANd UANGd UUd UEId UNGd Yd YId AE",
      "d AEEd ERRd ROUNDED ERRd ERd ROUNDED ERd AId EId AUd OUd Nd NGd UOGd YUId OGd OERd VWd IG",
      "d EAd IONGd UI"]⟩,
    ⟨0x16F8F, ["aMIAO TONE RIGHTc TOP RIGHTc ABOVEc BELOWb LETTER TONE-2d-3d-4d-5d-6d-7d-8",
      "c REFORMED TONE-1e-2e-4e-5e-6e-8"]⟩,
    ⟨0x16FE0, ["aTANGUT ITERATION MARKaNUSHU ITERATION MARKaOLD CHINESE HOOK MARKc ITERATION MARK",
      "aKHITAN SMALL SCRIPT FILLER"]⟩,
    ⟨0x16FF0, ["aVIETNAMESE ALTERNATE READING MARK CAe NHAY"]⟩,
    ⟨0x18800, ["aTANGUT COMPONENT-001c-002c-003c-004c-005c-006c-007c-008c-009c-010c-011c-012c-013",
      "c-014c-015c-016c-017c-018c-019c-020c-021c-022c-023c-024c-025c-026c-027c-028c-029c-030c-031",
      "c-032c-033c-034c-035c-036c-037c-038c-039c-040c-041c-042c-043c-044c-045c-046c-047c-048c-049",
      "c-050c-051c-052c-053c-054c-055c-056c-057c-058c-059c-060c-061c-062c-063c-064c-065c-066c-067",
      "c-068c-069c-070c-071c-072c-073c-074c-075c-076c-077c-078c-079c-080c-081c-082c-083c-084c-085",
      "c-086c-087c-088c-089c-090c-091c-092c-093c-094c-095c-096c-097c-098c-099c-100c-101c-102c-103",
      "c-104c-105c-106c-107c-108c-109c-110c-111c-112c-113c-114c-115c-116c-117c-118c-119c-120c-121",
      "c-122c-123c-124c-125c-126c-127c-128c-129c-130c-131c-132c-133c-134c-135c-136c-137c-138c-139",
      "c-140c-141c-142c-143c-144c-145c-146c-147c-148c-149c-150c-151c-152c-153c-154c-155c-156c-157",
      "c-158c-159c-160c-161c-162c-163c-164c-165c-166c-167c-168c-169c-170c-171c-172c-173c-174c-175",
      "c-176c-177c-178c-179c-180c-181c-182c-183c-184c-185c-186c-187c-188c-189c-190c-191c-192c-193",
      "c-194c-195c-196c-197c-198c-199c-200c-201c-202c-203c-204c-205c-206c-207c-208c-209c-210c-211",
      "c-212c-213c-214c-215c-216c-217c-218c-219c-220c-221c-222c-223c-224c-225c-226c-227c-228c-229",
      "c-230c-231c-232c-233c-234c-235c-236c-237c-238c-239c-240c-241c-242c-243c-244c-245c-246c-247",
      "c-248c-249c-250c-251c-252c-253c-254c-255c-256c-257c-258c-259c-260c-261c-262c-263c-264c-265",
      "c-266c-267c-268c-269c-270c-271c-272c-273c-274c-275c-276c-277c-278c-279c-280c-281c-282c-283",
      "c-284c-285c-286c-287c-288c-289c-290c-291c-292c-293c-294c-295c-296c-297c-298c-299c-300c-301",
      "c-302c-303c-304c-305c-306c-307c-308c-309c-310c-311c-312c-313c-314c-315c-316c-317c-318c-319",
      "c-320c-321c-322c-323c-324c-325c-326c-327c-328c-329c-330c-331c-332c-333c-334c-335c-336c-337",
      "c-338c-339c-340c-341c-342c-343c-344c-345c-346c-347c-348c-349c-350c-351c-352c-353c-354c-355",
      "c-356c-357c-358c-359c-360c-361c-362c-363c-364c-365c-366c-367c-368c-369c-370c-371c-372c-373",
      "c-374c-375c-376c-377c-378c-379c-380c-381c-382c-383c-384c-385c-386c-387c-388c-389c-390c-391",
      "c-392c-393c-394c-395c-396c-397c-398c-399c-400c-401c-402c-403c-404c-405c-406c-407c-408c-409",
      "c-410c-411c-412c-413c-414c-415c-416c-417c-418c-419c-420c-421c-422c-423c-424c-425c-426c-427",
      "c-428c-429c-430c-431c-432c-433c-434c-435c-436c-437c-438c-439c-440c-441c-442c-443c-444c-445",
      "c-446c-447c-448c-449c-450c-451c-452c-453c-454c-455c-456c-457c-458c-459c-460c-461c-462c-463",
      "c-464c-465c-466c-467c-468c-469c-470c-471c-472c-473c-474c-475c-476c-477c-478c-479c-480c-481",
      "c-482c-483c-484c-485c-486c-487c-488c-489c-490c-491c-492c-493c-494c-495c-496c-497c-498c-499",
      "c-500c-501c-502c-503c-504c-505c-506c-507c-508c-509c-510c-511c-512c-513c-514c-515c-516c-517",
      "c-518c-519c-520c-521c-522c-523c-524c-525c-526c-527c-528c-529c-530c-531c-532c-533c-534c-535",
      "c-536c-537c-538c-539c-540c-541c-542c-543c-544c-545c-546c-547c-548c-549c-550c-551c-552c-553",
      "c-554c-555c-556c-557c-558c-559c-560c-561c-562c-563c-564c-565c-566c-567c-568c-569c-570c-571",
      "c-572c-573c-574c-575c-576c-577c-578c-579c-580c-581c-582c-583c-584c-585c-586c-587c-588c-589",
      "c-590c-591c-592c-593c-594c-595c-596c-597c-598c-599c-600c-601c-602c-603c-604c-605c-606c-607",
      "c-608c-609c-610c-611c-612c-613c-614c-615c-616c-617c-618c-619c-620c-621c-622c-623c-624c-625",
      "c-626c-627c-628c-629c-630c-631c-632c-633c-634c-635c-636c-637c-638c-639c-640c-641c-642c-643",
      "c-644c-645c-646c-647c-648c-649c-650c-651c-652c-653c-654c-655c-656c-657c-658c-659c-660c-661",
      "c-662c-663c-664c-665c-666c-667c-668c-669c-670c-671c-672c-673c-674c-675c-676c-677c-678c-679",
      "c-680c-681c-682c-683c-684c-685c-686c-687c-688c-689c-690c-691c-692c-693c-694c-695c-696c-697",
      "c-698c-699c-700c-701c-702c-703c-704c-705c-706c-707c-708c-709c-710c-711c-712c-713c-714c-715",
      "c-716c-717c-718c-719c-720c-721c-722c-723c-724c-725c-726c-727c-728c-729c-730c-731c-732c-733",
      "c-734c-735c-736c-737c-738c-739c-740c-741c-742c-743c-744c-745c-746c-747c-748c-749c-750c-751",
      "c-752c-753c-754c-755c-756c-757c-758c-759c-760c-761c-762c-763c-764c-765c-766c-767c-768",
      "aKHITAN SMALL SCRIPT CHARACTER-18B00e-18B01e-18B02e-18B03e-18B04e-18B05e-18B06e-18B07",
      "e-18B08e-18B09e-18B0Ae-18B0Be-18B0Ce-18B0De-18B0Ee-18B0Fe-18B10e-18B11e-18B12e-18B13e-18B14",
      "e-18B15e-18B16e-18B17e-18B18e-18B19e-18B1Ae-18B1Be-18B1Ce-18B1De-18B1Ee-18B1Fe-18B20e-18B21",
      "e-18B22e-18B23e-18B24e-18B25e-18B26e-18B27e-18B28e-18B29e-18B2Ae-18B2Be-18B2Ce-18B2De-18B2E",
      "e-18B2Fe-18B30e-18B31e-18B32e-18B33e-18B34e-18B35e-18B36e-18B37e-18B38e-18B39e-18B3Ae-18B3B",
      "e-18B3Ce-18B3De-18B3Ee-18B3Fe-18B40e-18B41e-18B42e-18B43e-18B44e-18B45e-18B46e-18B47e-18B48",
      "e-18B49e-18B4Ae-18B4Be-18B4Ce-18B4De-18B4Ee-18B4Fe-18B50e-18B51e-18B52e-18B53e-18B54e-18B55",
      "e-18B56e-18B57e-18B58e-18B59e-18B5Ae-18B5Be-18B5Ce-18B5De-18B5Ee-18B5Fe-18B60e-18B61e-18B62",
      "e-18B63e-18B64e-18B65e-18B66e-18B67e-18B68e-18B69e-18B6Ae-18B6Be-18B6Ce-18B6De-18B6Ee-18B6F",
      "e-18B70e-18B71e-18B72e-18B73e-18B74e-18B75e-18B76e-18B77e-18B78e-18B79e-18B7Ae-18B7Be-18B7C",
      "e-18B7De-18B7Ee-18B7Fe-18B80e-18B81e-18B82e-18B83e-18B84e-18B85e-18B86e-18B87e-18B88e-18B89",
      "e-18B8Ae-18B8Be-18B8Ce-18B8De-18B8Ee-18B8Fe-18B90e-18B91e-18B92e-18B93e-18B94e-18B95e-18B96",
      "e-18B97e-18B98e-18B99e-18B9Ae-18B9Be-18B9Ce-18B9De-18B9Ee-18B9Fe-18BA0e-18BA1e-18BA2e-18BA3",
      "e-18BA4e-18BA5e-18BA6e-18BA7e-18BA8e-18BA9e-18BAAe-18BABe-18BACe-18BADe-18BAEe-18BAFe-18BB0",
      "e-18BB1e-18BB2e-18BB3e-18BB4e-18BB5e-18BB6e-18BB7e-18BB8e-18BB9e-18BBAe-18BBBe-18BBCe-18BBD",
      "e-18BBEe-18BBFe-18BC0e-18BC1e-18BC2e-18BC3e-18BC4e-18BC5e-18BC6e-18BC7e-18BC8e-18BC9e-18BCA",
      "e-18BCBe-18BCCe-18BCDe-18BCEe-18BCFe-18BD0e-18BD1e-18BD2e-18BD3e-18BD4e-18BD5e-18BD6e-18BD7",
      "e-18BD8e-18BD9e-18BDAe-18BDBe-18BDCe-18BDDe-18BDEe-18BDFe-18BE0e-18BE1e-18BE2e-18BE3e-18BE4",
      "e-18BE5e-18BE6e-18BE7e-18BE8e-18BE9e-18BEAe-18BEBe-18BECe-18BEDe-18BEEe-18BEFe-18BF0e-18BF1",
      "e-18BF2e-18BF3e-18BF4e-18BF5e-18BF6e-18BF7e-18BF8e-18BF9e-18BFAe-18BFBe-18BFCe-18BFDe-18BFE",
      "e-18BFFe-18C00e-18C01e-18C02e-18C03e-18C04e-18C05e-18C06e-18C07e-18C08e-18C09e-18C0Ae-18C0B",
      "e-18C0Ce-18C0De-18C0Ee-18C0Fe-18C10e-18C11e-18C12e-18C13e-18C14e-18C15e-18C16e-18C17e-18C18",
      "e-18C19e-18C1Ae-18C1Be-18C1Ce-18C1De-18C1Ee-18C1Fe-18C20e-18C21e-18C22e-18C23e-18C24e-18C25",
      "e-18C26e-18C27e-18C28e-18C29e-18C2Ae-18C2Be-18C2Ce-18C2De-18C2Ee-18C2Fe-18C30e-18C31e-18C32",
      "e-18C33e-18C34e-18C35e-18C36e-18C37e-18C38e-18C39e-18C3Ae-18C3Be-18C3Ce-18C3De-18C3Ee-18C3F",
      "e-18C40e-18C41e-18C42e-18C43e-18C44e-18C45e-18C46e-18C47e-18C48e-18C49e-18C4Ae-18C4Be-18C4C",
      "e-18C4De-18C4Ee-18C4Fe-18C50e-18C51e-18C52e-18C53e-18C54e-18C55e-18C56e-18C57e-18C58e-18C59",
      "e-18C5Ae-18C5Be-18C5Ce-18C5De-18C5Ee-18C5Fe-18C60e-18C61e-18C62e-18C63e-18C64e-18C65e-18C66",
      "e-18C67e-18C68e-18C69e-18C6Ae-18C6Be-18C6Ce-18C6De-18C6Ee-18C6Fe-18C70e-18C71e-18C72e-18C73",
      "e-18C74e-18C75e-18C76e-18C77e-18C78e-18C79e-18C7Ae-18C7Be-18C7Ce-18C7De-18C7Ee-18C7Fe-18C80",
      "e-18C81e-18C82e-18C83e-18C84e-18C85e-18C86e-18C87e-18C88e-18C89e-18C8Ae-18C8Be-18C8Ce-18C8D",
      "e-18C8Ee-18C8Fe-18C90e-18C91e-18C92e-18C93e-18C94e-18C95e-18C96e-18C97e-18C98e-18C99e-18C9A",
      "e-18C9Be-18C9Ce-18C9De-18C9Ee-18C9Fe-18CA0e-18CA1e-18CA2e-18CA3e-18CA4e-18CA5e-18CA6e-18CA7",
      "e-18CA8e-18CA9e-18CAAe-18CABe-18CACe-18CADe-18CAEe-18CAFe-18CB0e-18CB1e-18CB2e-18CB3e-18CB4",
      "e-18CB5e-18CB6e-18CB7e-18CB8e-18CB9e-18CBAe-18CBBe-18CBCe-18CBDe-18CBEe-18CBFe-18CC0e-18CC1",
      "e-18CC2e-18CC3e-18CC4e-18CC5e-18CC6e-18CC7e-18CC8e-18CC9e-18CCAe-18CCBe-18CCCe-18CCDe-18CCE",
      "e-18CCFe-18CD0e-18CD1e-18CD2e-18CD3e-18CD4e-18CD5"]⟩,
    ⟨0x1AFF0, ["aKATAKANA LETTER MINNAN TONE-2e-3e-4e-5"]⟩,
    ⟨0x1AFF5, ["aKATAKANA LETTER MINNAN TONE-7e-8d NASALIZED TONE-1f-2f-3f-4f-5"]⟩,
    ⟨0x1AFFD, ["aKATAKANA LETTER MINNAN NASALIZED TONE-7f-8"]⟩,
    ⟨0x1B000, ["aKATAKANA LETTER ARCHAIC EaHIRAGANA LETTER ARCHAIC YEaHENTAIGANA LETTER A-1d-2d-3",
      "d-WOc I-1d-2d-3d-4c U-1d-2d-3d-4d-5c E-2d-3d-4d-5d-6c O-1d-2d-3c KA-1d-2d-3d-4d-5d-6d-7d-8",
      "d-9d-10d-11d-KEc KI-1d-2d-3d-4d-5d-6d-7d-8c KU-1d-2d-3d-4d-5d-6d-7c KE-1d-2d-3d-4d-5d-6",
      "c KO-1d-2d-3d-KIc SA-1d-2d-3d-4d-5d-6d-7d-8c SI-1d-2d-3d-4d-5d-6c SU-1d-2d-3d-4d-5d-6d-7d-8",
      "c SE-1d-2d-3d-4d-5c SO-1d-2d-3d-4d-5d-6d-7c TA-1d-2d-3d-4c TI-1d-2d-3d-4d-5d-6d-7c TU-1d-2",
      "d-3d-4d-TOc TE-1d-2d-3d-4d-5d-6d-7d-8d-9c TO-1d-2d-3d-4d-5d-6d-RAc NA-1d-2d-3d-4d-5d-6d-7",
      "d-8d-9c NI-1d-2d-3d-4d-5d-6d-7d-TEc NU-1d-2d-3c NE-1d-2d-3d-4d-5d-6d-KOc NO-1d-2d-3d-4d-5",
      "c HA-1d-2d-3d-4d-5d-6d-7d-8d-9d-10d-11c HI-1d-2d-3d-4d-5d-6d-7c HU-1d-2d-3c HE-1d-2d-3d-4",
      "d-5d-6d-7c HO-1d-2d-3d-4d-5d-6d-7d-8c MA-1d-2d-3d-4d-5d-6d-7c MI-1d-2d-3d-4d-5d-6d-7c MU-1",
      "d-2d-3d-4c ME-1d-2d-MAc MO-1d-2d-3d-4d-5d-6c YA-1d-2d-3d-4d-5d-YOc YU-1d-2d-3d-4c YO-1d-2",
      "d-3d-4d-5d-6c RA-1d-2d-3d-4c RI-1d-2d-3d-4d-5d-6d-7c RU-1d-2d-3d-4d-5d-6c RE-1d-2d-3d-4",
      "c RO-1d-2d-3d-4d-5d-6c WA-1d-2d-3d-4d-5c WI-1d-2d-3d-4d-5c WE-1d-2d-3d-4c WO-1d-2d-3d-4d-5",
      "d-6d-7c N-MU-MO-1f-2aHIRAGANA LETTER ARCHAIC WUaKATAKANA LETTER ARCHAIC YId YEd WU"]⟩,
    ⟨0x1B150, ["aHIRAGANA LETTER SMALL WId WEd WO"]⟩,
    ⟨0x1B164, ["aKATAKANA LETTER SMALL WId WEd WOd N"]⟩,
    ⟨0x1B170, ["aNUSHU CHARACTER-1B170c-1B171c-1B172c-1B173c-1B174c-1B175c-1B176c-1B177c-1B178",
      "c-1B179c-1B17Ac-1B17Bc-1B17Cc-1B17Dc-1B17Ec-1B17Fc-1B180c-1B181c-1B182c-1B183c-1B184c-1B185",
      "c-1B186c-1B187c-1B188c-1B189c-1B18Ac-1B18Bc-1B18Cc-1B18Dc-1B18Ec-1B18Fc-1B190c-1B191c-1B192",
      "c-1B193c-1B194c-1B195c-1B196c-1B197c-1B198c-1B199c-1B19Ac-1B19Bc-1B19Cc-1B19Dc-1B19Ec-1B19F",
      "c-1B1A0c-1B1A1c-1B1A2c-1B1A3c-1B1A4c-1B1A5c-1B1A6c-1B1A7c-1B1A8c-1B1A9c-1B1AAc-1B1ABc-1B1AC",
      "c-1B1ADc-1B1AEc-1B1AFc-1B1B0c-1B1B1c-1B1B2c-1B1B3c-1B1B4c-1B1B5c-1B1B6c-1B1B7c-1B1B8c-1B1B9",
      "c-1B1BAc-1B1BBc-1B1BCc-1B1BDc-1B1BEc-1B1BFc-1B1C0c-1B1C1c-1B1C2c-1B1C3c-1B1C4c-1B1C5c-1B1C6",
      "c-1B1C7c-1B1C8c-1B1C9c-1B1CAc-1B1CBc-1B1CCc-1B1CDc-1B1CEc-1B1CFc-1B1D0c-1B1D1c-1B1D2c-1B1D3",
      "c-1B1D4c-1B1D5c-1B1D6c-1B1D7c-1B1D8c-1B1D9c-1B1DAc-1B1DBc-1B1DCc-1B1DDc-1B1DEc-1B1DFc-1B1E0",
      "c-1B1E1c-1B1E2c-1B1E3c-1B1E4c-1B1E5c-1B1E6c-1B1E7c-1B1E8c-1B1E9c-1B1EAc-1B1EBc-1B1ECc-1B1ED",
      "c-1B1EEc-1B1EFc-1B1F0c-1B1F1c-1B1F2c-1B1F3c-1B1F4c-1B1F5c-1B1F6c-1B1F7c-1B1F8c-1B1F9c-1B1FA",
      "c-1B1FBc-1B1FCc-1B1FDc-1B1FEc-1B1FFc-1B200c-1B201c-1B202c-1B203c-1B204c-1B205c-1B206c-1B207",
      "c-1B208c-1B209c-1B20Ac-1B20Bc-1B20Cc-1B20Dc-1B20Ec-1B20Fc-1B210c-1B211c-1B212c-1B213c-1B214",
      "c-1B215c-1B216c-1B217c-1B218c-1B219c-1B21Ac-1B21Bc-1B21Cc-1B21Dc-1B21Ec-1B21Fc-1B220c-1B221",
      "c-1B222c-1B223c-1B224c-1B225c-1B226c-1B227c-1B228c-1B229c-1B22Ac-1B22Bc-1B22Cc-1B22Dc-1B22E",
      "c-1B22Fc-1B230c-1B231c-1B232c-1B233c-1B234c-1B235c-1B236c-1B237c-1B238c-1B239c-1B23Ac-1B23B",
      "c-1B23Cc-1B23Dc-1B23Ec-1B23Fc-1B240c-1B241c-1B242c-1B243c-1B244c-1B245c-1B246c-1B247c-1B248",
      "c-1B249c-1B24Ac-1B24Bc-1B24Cc-1B24Dc-1B24Ec-1B24Fc-1B250c-1B251c-1B252c-1B253c-1B254c-1B255",
      "c-1B256c-1B257c-1B258c-1B259c-1B25Ac-1B25Bc-1B25Cc-1B25Dc-1B25Ec-1B25Fc-1B260c-1B261c-1B262",
      "c-1B263c-1B264c-1B265c-1B266c-1B267c-1B268c-1B269c-1B26Ac-1B26Bc-1B26Cc-1B26Dc-1B26Ec-1B26F",
      "c-1B270c-1B271c-1B272c-1B273c-1B274c-1B275c-1B276c-1B277c-1B278c-1B279c-1B27Ac-1B27Bc-1B27C",
      "c-1B27Dc-1B27Ec-1B27Fc-1B280c-1B281c-1B282c-1B283c-1B284c-1B285c-1B286c-1B287c-1B288c-1B289",
      "c-1B28Ac-1B28Bc-1B28Cc-1B28Dc-1B28Ec-1B28Fc-1B290c-1B291c-1B292c-1B293c-1B294c-1B295c-1B296",
      "c-1B297c-1B298c-1B299c-1B29Ac-1B29Bc-1B29Cc-1B29Dc-1B29Ec-1B29Fc-1B2A0c-1B2A1c-1B2A2c-1B2A3",
      "c-1B2A4c-1B2A5c-1B2A6c-1B2A7c-1B2A8c-1B2A9c-1B2AAc-1B2ABc-1B2ACc-1B2ADc-1B2AEc-1B2AFc-1B2B0",
      "c-1B2B1c-1B2B2c-1B2B3c-1B2B4c-1B2B5c-1B2B6c-1B2B7c-1B2B8c-1B2B9c-1B2BAc-1B2BBc-1B2BCc-1B2BD",
      "c-1B2BEc-1B2BFc-1B2C0c-1B2C1c-1B2C2c-1B2C3c-1B2C4c-1B2C5c-1B2C6c-1B2C7c-1B2C8c-1B2C9c-1B2CA",
      "c-1B2CBc-1B2CCc-1B2CDc-1B2CEc-1B2CFc-1B2D0c-1B2D1c-1B2D2c-1B2D3c-1B2D4c-1B2D5c-1B2D6c-1B2D7",
      "c-1B2D8c-1B2D9c-1B2DAc-1B2DBc-1B2DCc-1B2DDc-1B2DEc-1B2DFc-1B2E0c-1B2E1c-1B2E2c-1B2E3c-1B2E4",
      "c-1B2E5c-1B2E6c-1B2E7c-1B2E8c-1B2E9c-1B2EAc-1B2EBc-1B2ECc-1B2EDc-1B2EEc-1B2EFc-1B2F0c-1B2F1",
      "c-1B2F2c-1B2F3c-1B2F4c-1B2F5c-1B2F6c-1B2F7c-1B2F8c-1B2F9c-1B2FAc-1B2FB"]⟩,
    ⟨0x1BC00, ["aDUPLOYAN LETTER Hc Xc Pc Tc Fc Kc Lc Bc Dc Vc Gc Rc P Nc D Sc F Nc K Mc R Sc TH",
      "c SLOAN DHc DHc KKc SLOAN Jc HLc LHc RHc Mc Nc Jc Sc M Nc N Mc J Mc S Jc M WITH DOT",
      "c N WITH DOTc J WITH DOTe DOTS INSIDE AND ABOVEc S WITH DOTf BELOWc M Sc N Sc J Sc S S",
      "c M N Sc N M Sc J M Sc S J Sc J S WITH DOTd Ne Sc S Te Rd Pe Rc T Sd R Sc Wc WHc W Rc S N",
      "d Mc K R Sc G R Sc S Ke Rc Ac SLOAN OWc OAc Oc AOUc Ic Ec IEc SHORT Ic UIc EEc SLOAN EH",
      "c ROMANIAN Ic SLOAN EEc LONG Ic YEc Uc EUc XWc U Nc LONG Uc ROMANIAN Uc UHc SLOAN Uc OOH",
      "c OWc OUc WAc WOc WIc WEIc WOWc NASAL Ud Od Id Ac PERNIN ANd AMc SLOAN ENd ANd ON",
      "c VOCALIC M"]⟩,
    ⟨0x1BC70, ["aDUPLOYAN AFFIX LEFT HORIZONTAL SECANTc MID HORIZONTAL SECANT",
      "c RIGHT HORIZONTAL SECANTc LOW VERTICAL SECANTc MID VERTICAL SECANTc HIGH VERTICAL SECANT",
      "c ATTACHED SECANTd LEFT-TO-RIGHT SECANTd TANGENTd TAILd E HOOKd I HOOKd TANGENT HOOK"]⟩,
    ⟨0x1BC80, ["aDUPLOYAN AFFIX HIGH ACUTEd TIGHT ACUTEd GRAVEd LONG GRAVEd DOTd CIRCLEd LINE",
      "d WAVEd VERTICAL"]⟩,
    ⟨0x1BC90, ["aDUPLOYAN AFFIX LOW ACUTEd TIGHT ACUTEd GRAVEd LONG GRAVEd DOTd CIRCLEd LINEd WAVE",
      "d VERTICALd ARROW"]⟩,
    ⟨0x1BC9C, ["aDUPLOYAN SIGN O WITH CROSSb THICK LETTER SELECTORb DOUBLE MARK",
      "b PUNCTUATION CHINOOK FULL STOPaSHORTHAND FORMAT LETTER OVERLAPc CONTINUING OVERLAP",
      "c DOWN STEPc UP STEP"]⟩,
    ⟨0x1CF00, ["aZNAMENNY COMBINING MARK GORAZDO NIZKO S KRYZHEM ON LEFTd NIZKO S KRYZHEM ON LEFT",
      "d TSATA ON LEFTd GORAZDO NIZKO ON LEFTd NIZKO ON LEFTd SREDNE ON LEFTd MALO POVYSHE ON LEFT",
      "d POVYSHE ON LEFTd VYSOKO ON LEFTd MALO POVYSHE S KHOKHLOM ON LEFT",
      "d POVYSHE S KHOKHLOM ON LEFTd VYSOKO S KHOKHLOM ON LEFTd GORAZDO NIZKO S KRYZHEM ON RIGHT",
      "d NIZKO S KRYZHEM ON RIGHTd TSATA ON RIGHTd GORAZDO NIZKO ON RIGHTd NIZKO ON RIGHT",
      "d SREDNE ON RIGHTd MALO POVYSHE ON RIGHTd POVYSHE ON RIGHTd VYSOKO ON RIGHT",
      "d MALO POVYSHE S KHOKHLOM ON RIGHTd POVYSHE S KHOKHLOM ON RIGHTd VYSOKO S KHOKHLOM ON RIGHT",
      "d TSATA S KRYZHEMd MALO POVYSHE S KRYZHEMd STRANNO MALO POVYSHEd POVYSHE S KRYZHEMe STRANNO",
      "d VYSOKO S KRYZHEMd MALO POVYSHE STRANNOd GORAZDO VYSOKOd ZELOd ONd RAVNOd TIKHAYAd BORZAYA",
      "d UDARKAd PODVERTKAd LOMKAd KUPNAYAd KACHKAd ZEVOKd SKOBAd RAZSEKAd KRYZH ON LEFT"]⟩,
    ⟨0x1CF30, ["aZNAMENNY COMBINING TONAL RANGE MARK MRACHNOf SVETLOf TRESVETLOc MARK ZADERZHKA",
      "d DEMESTVENNY ZADERZHKAd OTSECHKAd PODCHASHIEe WITH VERTICAL STROKEd CHASHKAe POLNAYA",
      "d OBLACHKOd SOROCHYA NOZHKAd TOCHKAd DVOETOCHIEc ATTACHING VERTICAL OMETc MARK CURVED OMET",
      "d KRYZHc LOWER TONAL RANGE INDICATORb PRIZNAK MODIFIER LEVEL-2e-3d DIRECTION FLIPd KRYZH",
      "d ROG"]⟩,
    ⟨0x1CF50, ["aZNAMENNY NEUME KRYUKd TIKHYc PARAKLITc DVA V CHELNUc KLYUCHc ZANOZHEKc STOPITSA",
      "d S OCHKOMc PEREVODKAd NEPOSTOYANNAYAc STOPITSA WITH SOROCHYA NOZHKAc CHELYUSTKAc PALKA",
      "c ZAPYATAYAc GOLUBCHIK BORZYd TIKHYd MRACHNYd SVETLYd TRESVETLYc VRAKHIYA PROSTAYA",
      "d MRACHNAYAd SVETLAYAd TRESVETLAYAd KLYUCHEVAYA PROSTAYAe MRACHNAYAe SVETLAYAe TRESVETLAYA",
      "c DOUBLE ZAPYATAYAc REVERSED CHELYUSTKAc DERBITSAc KHAMILOc CHASHKAc PODCHASHIE",
      "c SKAMEYTSA MRACHNAYAd SVETLAYAd TRESVETLAYAd TIKHAYAc DEMESTVENNY KLYUCH",
      "c SKAMEYTSA KLYUCHEVAYA SVETLAYAd KLYUCHENEPOSTOYANNAYAd KLYUCHEVAYA TIKHAYA",
      "d DVOECHELNAYA PROSTAYAe SVETLAYAe NEPOSTOYANNAYAe KLYUCHEVAYAc SLOZHITIEd S ZAPYATOY",
      "d ZAKRYTOEd S KRYZHEMc KRYZHc ROGc FITAc KOBYLAc ZMEYTSAc STATYAd S ZAPYATOYe KRYZHEM",
      "e ZAPYATOY I KRYZHEMe KRYZHEM I ZAPYATOYd ZAKRYTAYAe S ZAPYATOYd S ROGOMe DVUMYA ZAPYATYMI",
      "e ZAPYATOY I PODCHASHIEMc POLKULIZMYc STATYA NEPOSTOYANNAYAc STRELA PROSTAYA",
      "d MRACHNOTIKHAYAd KRYZHEVAYAd POLUPOVODNAYAd POVODNAYAd NEPOSTOYANNAYAd KLYUCHEPOVODNAYA",
      "d KLYUCHENEPOSTOYANNAYAd TIKHAYA PUTNAYAd DVOECHELNAYAd DVOECHELNOKRYZHEVAYA",
      "d DVOECHELNOPOVODNAYAd DVOECHELNAYA KLYUCHEVAYAd DVOECHELNOPOVODNAYA KLYUCHEVAYA",
      "d GROMNAYA WITH SINGLE ZAPYATAYAd GROMOPOVODNAYA WITH SINGLE ZAPYATAYAd GROMNAYA",
      "d GROMOPOVODNAYAe WITH DOUBLE ZAPYATAYAd GROMOKRYZHEVAYAe POVODNAYAc MECHIKd POVODNY",
      "d KLYUCHEVOYd KLYUCHEPOVODNYd KLYUCHENEPOSTOYANNYc STRELA TRYASOGLASNAYAd TRYASOPOVODNAYA",
      "d TRYASOSTRELNAYAc OSOKAd SVETLAYAd TRESVETLAYAd KRYUKOVAYA SVETLAYAd KLYUCHEVAYA SVETLAYA",
      "e NEPOSTOYANNAYAc STRELA KRYUKOVAYAe POVODNAYAe GROMNAYA WITH SINGLE ZAPYATAYA",
      "e GROMOPOVODNAYA WITH SINGLE ZAPYATAYAe GROMNAYAe GROMOPOVODNAYAf WITH DOUBLE ZAPYATAYA",
      "e GROMOKRYZHEVAYAf POVODNAYAe TRYASKAc KUFISMAc OBLAKOc DUDAc NEMKAc PAUK"]⟩
  ]

end PromptContract.Text

/-
TreeQuote/Text/CharacterName/Indic.lean

The names of the scripts of Africa, of India and of what lies east of it, in runs of code points with
names.  How a run is written is said where runs are read.
-/

namespace TreeQuote.CharacterName

/-- Runs of names of the scripts of Africa, of India and of what lies east of it. -/
def indic : List (Nat × List String) :=
  [(0x800,
     ["aSAMARITAN LETTER ALAFi BITi GAMANi DALATi IYi BAAi ZENi ITi TITi YUTi KAAFi LABATi MIM",
      "i NUNi SINGAATi INi FIi TSAADIYi QUFi RISHi SHANi TAAFfMARK INiN-ALAFh OCCLUSIONh DAGESH",
      "fMODIFIER LETTER EPENTHETIC YUTfMARK EPENTHETIC YUTfVOWEL SIGN LONG Ek Ek OVERLONG AA",
      "k LONG AAk AAk OVERLONG Ak LONG Ak AfMODIFIER LETTER SHORT AfVOWEL SIGN SHORT Ak LONG U",
      "k UfMODIFIER LETTER IfVOWEL SIGN LONG Ik Ik Ok SUKUNfMARK NEQUDAA"]),
   (0x830,
     ["aSAMARITAN PUNCTUATION NEQUDAAlAFSAAQlANGEDlBAUlATMAAUlSHIYYAALAAfABBREVIATION MARK",
      "fPUNCTUATION MELODIC QITSAlZIQAAlQITSAlZAEFlTURUlARKAANUlSOF MASHFAATlANNAAU"]),
   (0x840,
     ["aMANDAIC LETTER HALQAh ABiGiDiHh USHENNAh AZh ITh ATTiKSAiKiLiMiNiSh INh APiSZiQiRiSHiT",
      "h DUSHENNAh KADh AINeAFFRICATION MARKeVOCALIZATION MARKeGEMINATION MARK"]),
   (0x85E, ["aMANDAIC PUNCTUATION"]),
   (0x860, ["aSYRIAC LETTER MALAYALAM NGAmJAmNYAmTTAmNNAnNAmBHAmRAmLLAnLAmSSA"]),
   (0x870,
     ["aARABIC LETTER ALEF WITH ATTACHED FATHAq TOP RIGHT FATHAmRIGHT MIDDLE STROKE",
      "mLEFT MIDDLE STROKEmATTACHED KASRAq BOTTOM RIGHT KASRAq ROUND DOT ABOVErIGHT ROUND DOT",
      "q LEFT ROUND DOTq ROUND DOT BELOWmDOT ABOVEmATTACHED TOP RIGHT FATHA AND DOT ABOVE",
      "mRIGHT MIDDLE STROKE AND DOT ABOVEmATTACHED BOTTOM RIGHT KASRA AND DOT ABOVE",
      "q TOP RIGHT FATHA AND LEFT RINGmRIGHT MIDDLE STROKE AND LEFT RING",
      "mATTACHED BOTTOM RIGHT KASRA AND LEFT RINGq RIGHT HAMZAq LEFT HAMZA",
      "d TATWEEL WITH OVERSTRUCK HAMZAp WAWkTWO DOTS BELOWd LETTER THIN YEHd BASELINE ROUND DOT",
      "d RAISED ROUND DOTd LETTER NOON WITH INVERTED SMALL VhHAH WITH INVERTED SMALL V BELOW",
      "hTAH WITH DOT BELOWl THREE DOTS BELOWhKEHEH WITH TWO DOTS VERTICALLY BELOW",
      "d VERTICAL TAIL"]),
   (0x890, ["aARABIC POUND MARK ABOVEeIASTRE MARK ABOVE"]),
   (0x898,
     ["aARABIC SMALL HIGH WORD AL-JUZg LOW WORD ISHMAAMlIMAALAlTASHEELd MADDA WAAJIB",
      "d SUPERSCRIPT ALEF MOKHASSASd DOUBLED MADDAd HALF MADDA OVER MADDA",
      "d LETTER BEH WITH SMALL V BELOWl HAMZA ABOVEhJEEM WITH TWO DOTS ABOVE",
      "hTAH WITH TWO DOTS ABOVEhFEH WITH DOT BELOW AND THREE DOTS ABOVEhQAF WITH DOT BELOW",
      "hLAM WITH DOUBLE BARhMEEM WITH THREE DOTS ABOVEhYEH WITH TWO DOTS BELOW AND HAMZA ABOVE",
      "vDOT ABOVEhREH WITH LOOPhWAW WITH DOT WITHINhROHINGYA YEHhLOW ALEF",
      "hDAL WITH THREE DOTS BELOWhSAD WITH THREE DOTS BELOWhGAF WITH INVERTED STROKE",
      "hSTRAIGHT WAWhZAIN WITH INVERTED V ABOVEhAIN WITH THREE DOTS BELOWhKAF WITH DOT BELOW",
      "hQAF WITH DOT BELOW AND NO DOTS ABOVEhBEH WITH SMALL MEEM ABOVE",
      "hPEH WITH SMALL MEEM ABOVEhTEH WITH SMALL TEH ABOVEhREH WITH SMALL NOON ABOVE",
      "hYEH WITH TWO DOTS BELOW AND SMALL NOON ABOVEhAFRICAN FEHlQAFlNOONhPEH WITH SMALL V",
      "hTEH WITH SMALL VhTTEH WITH SMALL VhTCHEH WITH SMALL VhKEHEH WITH SMALL V",
      "hGHAIN WITH THREE DOTS ABOVEhAFRICAN QAF WITH THREE DOTS ABOVE",
      "hJEEM WITH THREE DOTS ABOVEr BELOWhLAM WITH SMALL ARABIC LETTER TAH ABOVEhGRAF",
      "d SMALL FARSI YEHg HIGH FARSI YEHjYEH BARREE WITH TWO DOTS BELOWjWORD SAHjZAH",
      "d LARGE ROUND DOT ABOVEl BELOWd SUKUN BELOWd LARGE CIRCLE BELOW",
      "g ROUND DOT INSIDE CIRCLE BELOWd SMALL LOW WAWg HIGH WORD AR-RUBjSADjAINjQAF",
      "jNOON WITH KASRAg LOW NOON WITH KASRAg HIGH WORD ATH-THALATHAmS-SAJDAmN-NISFl SAKTAl QIF",
      "l WAQFAjFOOTNOTE MARKERjSIGN SAFHAd DISPUTED END OF AYAHd TURNED DAMMA BELOW",
      "d CURLY FATHAg DAMMAg KASRAg FATHATANg DAMMATANg KASRATANd TONE ONE DOT ABOVE",
      "gTWO DOTS ABOVEgLOOP ABOVEgONE DOT BELOWgTWO DOTS BELOWgLOOP BELOWd OPEN FATHATAN",
      "gDAMMATANgKASRATANd SMALL HIGH WAWd FATHA WITH RINGjDOT ABOVEd KASRA WITH DOT BELOW",
      "d LEFT ARROWHEAD ABOVEd RIGHT ARROWHEAD ABOVEd LEFT ARROWHEAD BELOW",
      "d RIGHT ARROWHEAD BELOWd DOUBLE RIGHT ARROWHEAD ABOVErE WITH DOT",
      "d RIGHT ARROWHEAD ABOVE WITH DOTd DAMMA WITH DOTd MARK SIDEWAYS NOON GHUNNA",
      "aDEVANAGARI SIGN INVERTED CANDRABINDUiCANDRABINDUiANUSVARAiVISARGAf LETTER SHORT AjAjAA",
      "jIjIIjUjUUjVOCALIC RnLjCANDRA EjSHORT EjEjAIjCANDRA OjSHORT OjOjAUjKAjKHAjGAjGHAjNGAjCA",
      "jCHAjJAjJHAjNYAjTTAkHAjDDAkHAjNNAjTAjTHAjDAjDHAjNAjNNNAjPAjPHAjBAjBHAjMAjYAjRAjRRAjLA",
      "jLLAkLAjVAjSHAjSSAjSAjHAf VOWEL SIGN OElOOEf SIGN NUKTAiAVAGRAHAf VOWEL SIGN AAlIlIIlU",
      "lUUlVOCALIC RpRRlCANDRA ElSHORT ElElAIlCANDRA OlSHORT OlOlAUf SIGN VIRAMA",
      "f VOWEL SIGN PRISHTHAMATRA ElAWf OMf STRESS SIGN UDATTAl ANUDATTAf GRAVE ACCENT",
      "f ACUTE ACCENTf VOWEL SIGN CANDRA LONG ElUElUUEf LETTER QAjKHHAjGHHAjZAjDDDHAjRHAjFAjYYA",
      "jVOCALIC RRnLLf VOWEL SIGN VOCALIC LpLLf DANDAgOUBLE DANDAgIGIT ZEROi ONEi TWOjHREE",
      "i FOURjIVEi SIXjEVENi EIGHTi NINEf ABBREVIATION SIGNf SIGN HIGH SPACING DOT",
      "f LETTER CANDRA AjOEjOOEjAWjUEjUUEjMARWARI DDAjZHAjHEAVY YAjGGAjJJAjGLOTTAL STOPjDDDA",
      "jBBAaBENGALI ANJIeSIGN CANDRABINDUg ANUSVARAg VISARGA"]),
   (0x985, ["aBENGALI LETTER AiAh IiIh UiUh VOCALIC Rl L"]),
   (0x98F, ["aBENGALI LETTER Eh AI"]),
   (0x993,
     ["aBENGALI LETTER Oh AUh KAiHAh GAiHAh NGAh CAiHAh JAiHAh NYAh TTAiTHAh DDAiDHAh NNAh TA",
      "iHAh DAiHAh NA"]),
   (0x9AA, ["aBENGALI LETTER PAiHAh BAiHAh MAh YAh RA"]),
   (0x9B2, ["aBENGALI LETTER LA"]),
   (0x9B6, ["aBENGALI LETTER SHAiSAiAh HA"]),
   (0x9BC, ["aBENGALI SIGN NUKTAg AVAGRAHAeVOWEL SIGN AAj IkIj UkUj VOCALIC RoR"]),
   (0x9C7, ["aBENGALI VOWEL SIGN Ej AI"]),
   (0x9CB, ["aBENGALI VOWEL SIGN Oj AUeSIGN VIRAMAeLETTER KHANDA TA"]),
   (0x9D7, ["aBENGALI AU LENGTH MARK"]),
   (0x9DC, ["aBENGALI LETTER RRAiHA"]),
   (0x9DF, ["aBENGALI LETTER YYAh VOCALIC RRl LLeVOWEL SIGN VOCALIC LoL"]),
   (0x9E6,
     ["aBENGALI DIGIT ZEROhONEhTWOhTHREEhFOURhFIVEhSIXhSEVENhEIGHThNINE",
      "eLETTER RA WITH MIDDLE DIAGONALl LOWER DIAGONALeRUPEE MARKhSIGNeCURRENCY NUMERATOR ONE",
      "n TWOoHREEn FOURn ONE LESS THAN THE DENOMINATORi DENOMINATOR SIXTEENeISSHAReGANDA MARK",
      "eLETTER VEDIC ANUSVARAeABBREVIATION SIGNeSANDHI MARK"]),
   (0xA01, ["aGURMUKHI SIGN ADAK BINDIhBINDIhVISARGA"]),
   (0xA05, ["aGURMUKHI LETTER AiAAiIiIIiUiUU"]),
   (0xA0F, ["aGURMUKHI LETTER EEiAI"]),
   (0xA13,
     ["aGURMUKHI LETTER OOiAUiKAiKHAiGAiGHAiNGAiCAiCHAiJAiJHAiNYAiTTAjHAiDDAjHAiNNAiTAiTHAiDA",
      "iDHAiNA"]),
   (0xA2A, ["aGURMUKHI LETTER PAiPHAiBAiBHAiMAiYAiRA"]),
   (0xA32, ["aGURMUKHI LETTER LAiLLA"]),
   (0xA35, ["aGURMUKHI LETTER VAiSHA"]),
   (0xA38, ["aGURMUKHI LETTER SAiHA"]),
   (0xA3C, ["aGURMUKHI SIGN NUKTA"]),
   (0xA3E, ["aGURMUKHI VOWEL SIGN AAkIkIIkUkUU"]),
   (0xA47, ["aGURMUKHI VOWEL SIGN EEkAI"]),
   (0xA4B, ["aGURMUKHI VOWEL SIGN OOkAUe SIGN VIRAMA"]),
   (0xA51, ["aGURMUKHI SIGN UDAAT"]),
   (0xA59, ["aGURMUKHI LETTER KHHAiGHHAiZAiRRA"]),
   (0xA5E, ["aGURMUKHI LETTER FA"]),
   (0xA66,
     ["aGURMUKHI DIGIT ZEROh ONEh TWOiHREEh FOURiIVEh SIXiEVENh EIGHTh NINEe TIPPIe ADDAKe IRI",
      "e URAe EK ONKARe SIGN YAKASHe ABBREVIATION SIGN"]),
   (0xA81, ["aGUJARATI SIGN CANDRABINDUhANUSVARAhVISARGA"]),
   (0xA85, ["aGUJARATI LETTER AiAAiIiIIiUiUUiVOCALIC RmLe VOWEL CANDRA E"]),
   (0xA8F, ["aGUJARATI LETTER EiAIe VOWEL CANDRA O"]),
   (0xA93,
     ["aGUJARATI LETTER OiAUiKAiKHAiGAiGHAiNGAiCAiCHAiJAiJHAiNYAiTTAjHAiDDAjHAiNNAiTAiTHAiDA",
      "iDHAiNA"]),
   (0xAAA, ["aGUJARATI LETTER PAiPHAiBAiBHAiMAiYAiRA"]),
   (0xAB2, ["aGUJARATI LETTER LAiLLA"]),
   (0xAB5, ["aGUJARATI LETTER VAiSHAiSSAiSAiHA"]),
   (0xABC,
     ["aGUJARATI SIGN NUKTAhAVAGRAHAe VOWEL SIGN AAkIkIIkUkUUkVOCALIC RoRRkCANDRA E"]),
   (0xAC7, ["aGUJARATI VOWEL SIGN EkAIkCANDRA O"]),
   (0xACB, ["aGUJARATI VOWEL SIGN OkAUe SIGN VIRAMA"]),
   (0xAD0, ["aGUJARATI OM"]),
   (0xAE0, ["aGUJARATI LETTER VOCALIC RRmLLe VOWEL SIGN VOCALIC LoLL"]),
   (0xAE6,
     ["aGUJARATI DIGIT ZEROh ONEh TWOiHREEh FOURiIVEh SIXiEVENh EIGHTh NINEe ABBREVIATION SIGN",
      "e RUPEE SIGN"]),
   (0xAF9,
     ["aGUJARATI LETTER ZHAe SIGN SUKUNhSHADDAhMADDAHhTHREE-DOT NUKTA ABOVEhCIRCLE NUKTA ABOVE",
      "hTWO-CIRCLE NUKTA ABOVE"]),
   (0xB01, ["aORIYA SIGN CANDRABINDUf ANUSVARAf VISARGA"]),
   (0xB05, ["aORIYA LETTER AhAg IhIg UhUg VOCALIC Rk L"]),
   (0xB0F, ["aORIYA LETTER Eg AI"]),
   (0xB13,
     ["aORIYA LETTER Og AUg KAhHAg GAhHAg NGAg CAhHAg JAhHAg NYAg TTAhTHAg DDAhDHAg NNAg TAhHA",
      "g DAhHAg NA"]),
   (0xB2A, ["aORIYA LETTER PAhHAg BAhHAg MAg YAg RA"]),
   (0xB32, ["aORIYA LETTER LAhLA"]),
   (0xB35, ["aORIYA LETTER VAg SHAhSAhAg HA"]),
   (0xB3C, ["aORIYA SIGN NUKTAf AVAGRAHAdVOWEL SIGN AAi IjIi UjUi VOCALIC RnR"]),
   (0xB47, ["aORIYA VOWEL SIGN Ei AI"]),
   (0xB4B, ["aORIYA VOWEL SIGN Oi AUdSIGN VIRAMA"]),
   (0xB55, ["aORIYA SIGN OVERLINEdAI LENGTH MARKdAU LENGTH MARK"]),
   (0xB5C, ["aORIYA LETTER RRAhHA"]),
   (0xB5F, ["aORIYA LETTER YYAg VOCALIC RRk LLdVOWEL SIGN VOCALIC LnL"]),
   (0xB66,
     ["aORIYA DIGIT ZEROgONEgTWOgTHREEgFOURgFIVEgSIXgSEVENgEIGHTgNINEdISSHARdLETTER WA",
      "dFRACTION ONE QUARTERj HALFh THREE QUARTERSh ONE SIXTEENTHj EIGHTHh THREE SIXTEENTHS"]),
   (0xB82, ["aTAMIL SIGN ANUSVARAf VISARGA"]),
   (0xB85, ["aTAMIL LETTER AhAg IhIg UhU"]),
   (0xB8E, ["aTAMIL LETTER EhEg AI"]),
   (0xB92, ["aTAMIL LETTER OhOg AUg KA"]),
   (0xB99, ["aTAMIL LETTER NGAg CA"]),
   (0xB9C, ["aTAMIL LETTER JA"]),
   (0xB9E, ["aTAMIL LETTER NYAg TTA"]),
   (0xBA3, ["aTAMIL LETTER NNAg TA"]),
   (0xBA8, ["aTAMIL LETTER NAhNNAg PA"]),
   (0xBAE, ["aTAMIL LETTER MAg YAg RAhRAg LAhLAhLLAg VAg SHAhSAhAg HA"]),
   (0xBBE, ["aTAMIL VOWEL SIGN AAi IjIi UjU"]),
   (0xBC6, ["aTAMIL VOWEL SIGN EjEi AI"]),
   (0xBCA, ["aTAMIL VOWEL SIGN OjOi AUdSIGN VIRAMA"]),
   (0xBD0, ["aTAMIL OM"]),
   (0xBD7, ["aTAMIL AU LENGTH MARK"]),
   (0xBE6,
     ["aTAMIL DIGIT ZEROgONEgTWOgTHREEgFOURgFIVEgSIXgSEVENgEIGHTgNINEdNUMBER TENg ONE HUNDRED",
      "i THOUSANDdDAY SIGNdMONTH SIGNdYEAR SIGNdDEBIT SIGNdCREDIT SIGNdAS ABOVE SIGNdRUPEE SIGN",
      "dNUMBER SIGN"]),
   (0xC00,
     ["aTELUGU SIGN COMBINING CANDRABINDU ABOVEgCANDRABINDUgANUSVARAgVISARGA",
      "gCOMBINING ANUSVARA ABOVEd LETTER AhAAhIhIIhUhUUhVOCALIC RlL"]),
   (0xC0E, ["aTELUGU LETTER EhEEhAI"]),
   (0xC12,
     ["aTELUGU LETTER OhOOhAUhKAhKHAhGAhGHAhNGAhCAhCHAhJAhJHAhNYAhTTAiHAhDDAiHAhNNAhTAhTHAhDA",
      "hDHAhNA"]),
   (0xC2A, ["aTELUGU LETTER PAhPHAhBAhBHAhMAhYAhRAhRRAhLAhLLAiLAhVAhSHAhSSAhSAhHA"]),
   (0xC3C, ["aTELUGU SIGN NUKTAgAVAGRAHAd VOWEL SIGN AAjIjIIjUjUUjVOCALIC RnRR"]),
   (0xC46, ["aTELUGU VOWEL SIGN EjEEjAI"]),
   (0xC4A, ["aTELUGU VOWEL SIGN OjOOjAUd SIGN VIRAMA"]),
   (0xC55, ["aTELUGU LENGTH MARKd AI LENGTH MARK"]),
   (0xC58, ["aTELUGU LETTER TSAhDZAhRRRA"]),
   (0xC5D, ["aTELUGU LETTER NAKAARA POLLU"]),
   (0xC60, ["aTELUGU LETTER VOCALIC RRlLLd VOWEL SIGN VOCALIC LnLL"]),
   (0xC66, ["aTELUGU DIGIT ZEROg ONEg TWOhHREEg FOURhIVEg SIXhEVENg EIGHTg NINE"]),
   (0xC77,
     ["aTELUGU SIGN SIDDHAMd FRACTION DIGIT ZERO FOR ODD POWERS OF FOUR",
      "lONE FOR ODD POWERS OF FOURlTWO FOR ODD POWERS OF FOURlTHREE FOR ODD POWERS OF FOUR",
      "lONE FOR EVEN POWERS OF FOURlTWO FOR EVEN POWERS OF FOURlTHREE FOR EVEN POWERS OF FOUR",
      "d SIGN TUUMUaKANNADA SIGN SPACING CANDRABINDUg CANDRABINDUg ANUSVARAg VISARGAg SIDDHAM",
      "eLETTER AiAh IiIh UiUh VOCALIC Rl L"]),
   (0xC8E, ["aKANNADA LETTER EiEh AI"]),
   (0xC92,
     ["aKANNADA LETTER OiOh AUh KAiHAh GAiHAh NGAh CAiHAh JAiHAh NYAh TTAiTHAh DDAiDHAh NNAh TA",
      "iHAh DAiHAh NA"]),
   (0xCAA, ["aKANNADA LETTER PAiHAh BAiHAh MAh YAh RAiRAh LAiLA"]),
   (0xCB5, ["aKANNADA LETTER VAh SHAiSAiAh HA"]),
   (0xCBC, ["aKANNADA SIGN NUKTAg AVAGRAHAeVOWEL SIGN AAj IkIj UkUj VOCALIC RoR"]),
   (0xCC6, ["aKANNADA VOWEL SIGN EkEj AI"]),
   (0xCCA, ["aKANNADA VOWEL SIGN OkOj AUeSIGN VIRAMA"]),
   (0xCD5, ["aKANNADA LENGTH MARKeAI LENGTH MARK"]),
   (0xCDD, ["aKANNADA LETTER NAKAARA POLLUh FA"]),
   (0xCE0, ["aKANNADA LETTER VOCALIC RRl LLeVOWEL SIGN VOCALIC LoL"]),
   (0xCE6, ["aKANNADA DIGIT ZEROhONEhTWOhTHREEhFOURhFIVEhSIXhSEVENhEIGHThNINE"]),
   (0xCF1, ["aKANNADA SIGN JIHVAMULIYAg UPADHMANIYA"]),
   (0xD00,
     ["aMALAYALAM SIGN COMBINING ANUSVARA ABOVEiANDRABINDUh ANUSVARAh VISARGA",
      "fLETTER VEDIC ANUSVARAi AjAi IjIi UjUi VOCALIC Rm L"]),
   (0xD0E, ["aMALAYALAM LETTER EjEi AI"]),
   (0xD12,
     ["aMALAYALAM LETTER OjOi AUi KAjHAi GAjHAi NGAi CAjHAi JAjHAi NYAi TTAjTHAi DDAjDHAi NNA",
      "i TAjHAi DAjHAi NAjNNAi PAjHAi BAjHAi MAi YAi RAjRAi LAjLAjLLAi VAi SHAjSAjAi HAi TTTA",
      "fSIGN VERTICAL BAR VIRAMAh CIRCULAR VIRAMAh AVAGRAHAfVOWEL SIGN AAk IlIk UlUk VOCALIC R",
      "pR"]),
   (0xD46, ["aMALAYALAM VOWEL SIGN ElEk AI"]),
   (0xD4A, ["aMALAYALAM VOWEL SIGN OlOk AUfSIGN VIRAMAfLETTER DOT REPHfSIGN PARA"]),
   (0xD54,
     ["aMALAYALAM LETTER CHILLU MmYmLLLfAU LENGTH MARKfFRACTION ONE ONE-HUNDRED-AND-SIXTIETH",
      "l FORTIETHj THREE EIGHTIETHSj ONE TWENTIETHmENTHj THREE TWENTIETHSj ONE FIFTH",
      "fLETTER ARCHAIC IIi VOCALIC RRm LLfVOWEL SIGN VOCALIC LpL"]),
   (0xD66,
     ["aMALAYALAM DIGIT ZEROiONEiTWOiTHREEiFOURiFIVEiSIXiSEVENiEIGHTiNINEfNUMBER TEN",
      "i ONE HUNDREDk THOUSANDfFRACTION ONE QUARTERl HALFj THREE QUARTERSj ONE SIXTEENTH",
      "l EIGHTHj THREE SIXTEENTHSfDATE MARKfLETTER CHILLU NNmNmRRmLmLLmK"]),
   (0xD81, ["aSINHALA SIGN CANDRABINDUg ANUSVARAYAg VISARGAYA"]),
   (0xD85,
     ["aSINHALA LETTER AYANNAiAYANNAiEYANNAiEEYANNAh IYANNAiIYANNAh UYANNAiUYANNAh IRUYANNA",
      "jUYANNAiLUYANNAjUYANNAh EYANNAiEYANNAh AIYANNAh OYANNAiOYANNAh AUYANNA"]),
   (0xD9A,
     ["aSINHALA LETTER ALPAPRAANA KAYANNAh MAHAAPRAANA KAYANNAh ALPAPRAANA GAYANNA",
      "h MAHAAPRAANA GAYANNAh KANTAJA NAASIKYAYAh SANYAKA GAYANNAh ALPAPRAANA CAYANNA",
      "h MAHAAPRAANA CAYANNAh ALPAPRAANA JAYANNAh MAHAAPRAANA JAYANNAh TAALUJA NAASIKYAYA",
      "l SANYOOGA NAAKSIKYAYAh SANYAKA JAYANNAh ALPAPRAANA TTAYANNAh MAHAAPRAANA TTAYANNA",
      "h ALPAPRAANA DDAYANNAh MAHAAPRAANA DDAYANNAiUURDHAJA NAYANNAh SANYAKA DDAYANNA",
      "h ALPAPRAANA TAYANNAh MAHAAPRAANA TAYANNAh ALPAPRAANA DAYANNAh MAHAAPRAANA DAYANNA",
      "h DANTAJA NAYANNA"]),
   (0xDB3,
     ["aSINHALA LETTER SANYAKA DAYANNAh ALPAPRAANA PAYANNAh MAHAAPRAANA PAYANNA",
      "h ALPAPRAANA BAYANNAh MAHAAPRAANA BAYANNAiAYANNAh AMBA BAYANNAh YAYANNAh RAYANNA"]),
   (0xDBD, ["aSINHALA LETTER DANTAJA LAYANNA"]),
   (0xDC0,
     ["aSINHALA LETTER VAYANNAh TAALUJA SAYANNAh MUURDHAJA SAYANNAh DANTAJA SAYANNAh HAYANNA",
      "h MUURDHAJA LAYANNAh FAYANNA"]),
   (0xDCA, ["aSINHALA SIGN AL-LAKUNA"]),
   (0xDCF,
     ["aSINHALA VOWEL SIGN AELA-PILLAj KETTI AEDA-PILLAj DIGA AEDA-PILLAj KETTI IS-PILLA",
      "j DIGA IS-PILLAj KETTI PAA-PILLA"]),
   (0xDD6, ["aSINHALA VOWEL SIGN DIGA PAA-PILLA"]),
   (0xDD8,
     ["aSINHALA VOWEL SIGN GAETTA-PILLAj KOMBUVAj DIGA KOMBUVAj KOMBU DEKAmVA HAA AELA-PILLA",
      "p DIGA AELA-PILLAp GAYANUKITTAj GAYANUKITTA"]),
   (0xDE6,
     ["aSINHALA LITH DIGIT ZEROj ONEj TWOkHREEj FOURkIVEj SIXkEVENj EIGHTj NINE"]),
   (0xDF2,
     ["aSINHALA VOWEL SIGN DIGA GAETTA-PILLAnYANUKITTAePUNCTUATION KUNDDALIYA"]),
   (0xE01,
     ["aTHAI CHARACTER KO KAIiHO KHAIkHUATkHWAIkHONj RAKHANGh NGO NGUh CHO CHANkHINGkHANG",
      "h SO SOh CHO CHOEh YO YINGh DO CHADAh TO PATAKiHO THANj NANGMONTHOj PHUTHAOh NO NEN",
      "h DO DEKh TO TAOiHO THUNGkHAHANkHONGh NO NUh BO BAIMAIh PO PLAiHO PHUNGh FO FAh PHO PHAN",
      "h FO FANh PHO SAMPHAOh MO MAh YO YAKh RO RUAiUh LO LINGiUh WO WAENh SO SALAjRUSIjSUA",
      "h HO HIPh LO CHULAh O ANGh HO NOKHUKh PAIYANNOIh SARA Ah MAI HAN-AKATh SARA AAkAMkIkII",
      "kUElEkUkUUh PHINTHU"]),
   (0xE3F,
     ["aTHAI CURRENCY SYMBOL BAHTdHARACTER SARA EkAEkOkAI MAIMUANnMALAIh LAKKHANGYAOh MAIYAMOK",
      "jTAIKHUj EKj THOkRIj CHATTAWAh THANTHAKHATh NIKHAHITh YAMAKKANh FONGMANc DIGIT ZEROf ONE",
      "f TWOgHREEf FOURgIVEf SIXgEVENf EIGHTf NINEc CHARACTER ANGKHANKHUh KHOMUT"]),
   (0xE81, ["aLAO LETTER KOgHO SUNG"]),
   (0xE84, ["aLAO LETTER KHO TAM"]),
   (0xE86, ["aLAO LETTER PALI GHAf NGOf COf PALI CHAf SO TAM"]),
   (0xE8C,
     ["aLAO LETTER PALI JHAf NYOf PALI NYAiTTAjHAiDDAjHAiNNAf DOf TOgHO SUNGh TAMf PALI DHAf NO",
      "f BOf POgHO SUNGf FO TAMf PHO TAMf FO SUNGf PALI BHAf MOf YOf LO LING"]),
   (0xEA5, ["aLAO LETTER LO LOOT"]),
   (0xEA7,
     ["aLAO LETTER WOf SANSKRIT SHAkSSAgO SUNGf HO SUNGf PALI LLAf Of HO TAMcELLIPSIS",
      "cVOWEL SIGN Ah MAI KANh AAiMh IiIh YiYh UiUcSIGN PALI VIRAMAcVOWEL SIGN MAI KON",
      "cSEMIVOWEL SIGN LOj NYO"]),
   (0xEC0, ["aLAO VOWEL SIGN EiIh Oh AYiI"]),
   (0xEC6, ["aLAO KO LA"]),
   (0xEC8, ["aLAO TONE MAI EKg THOhIg CATAWAcCANCELLATION MARKcNIGGAHITA"]),
   (0xED0, ["aLAO DIGIT ZEROfONEfTWOfTHREEfFOURfFIVEfSIXfSEVENfEIGHTfNINE"]),
   (0xEDC, ["aLAO HO NOd MOcLETTER KHMU GOiNYO"]),
   (0xF00,
     ["aTIBETAN SYLLABLE OMeMARK GTER YIG MGO TRUNCATED An-UM RNAM BCAD MApGTER TSHEG MA",
      "g INITIAL YIG MGO MDUN MAg CLOSING YIG MGO SGAB MAhARET YIG MGO PHUR SHAD MA",
      "g YIG MGO TSHEG SHAD MAg SBRUL SHADg BSKUR YIG MGOhKA- SHOG YIG MGOg INTERSYLLABIC TSHEG",
      "g DELIMITER TSHEG BSTARg SHADg NYIS SHADg TSHEG SHADg NYIS TSHEG SHAD",
      "g RIN CHEN SPUNGS SHADhGYA GRAM SHADg CARET -DZUD RTAGS ME LONG CANg GTER TSHEG",
      "eLOGOTYPE SIGN CHAD RTAGSlLHAG RTAGSeASTROLOGICAL SIGN SGRA GCAN -CHAR RTAGSn-KHYUD PA",
      "nSDONG TSHUGSeSIGN RDEL DKAR GCIGmNYISmSUMjNAG GCIGlGNYISjDKAR RDEL NAGeDIGIT ZEROhONE",
      "hTWOhTHREEhFOURhFIVEhSIXhSEVENhEIGHThNINEhHALF ONEj TWOkHREEj FOURkIVEj SIXkEVENj EIGHT",
      "j NINEj ZEROeMARK BSDUS RTAGSg NGAS BZUNG NYI ZLAg CARET -DZUD RTAGS BZHI MIG CAN",
      "g NGAS BZUNG SGOR RTAGSg CHE MGOg TSA -PHRUg GUG RTAGS GYONmYASg ANG KHANG GYONmYAS",
      "eSIGN YAR TSHESg MAR TSHESeLETTER KAiHAh GAiHAh NGAh CAiHAh JA"]),
   (0xF49,
     ["aTIBETAN LETTER NYAh TTAiTHAh DDAiDHAh NNAh TAiHAh DAiHAh NAh PAiHAh BAiHAh MAh TSAiSHA",
      "h DZAiZHAh WAh ZHAiAh -Ah YAh RAh LAh SHAiSAiAh HAh Ah KSSAh FIXED-FORM RAh KKAh RRA"]),
   (0xF71,
     ["aTIBETAN VOWEL SIGN AAj IkIj UkUj VOCALIC RoRn LoLj EkEj OkOeSIGN RJES SU NGA RO",
      "hNAM BCADeVOWEL SIGN REVERSED IoIIeSIGN NYI ZLA NAA DAg SNA LDANeMARK HALANTAg PALUTA",
      "eSIGN LCI RTAGSg YANG RTAGSg LCE TSA CANg MCHU CANg GRU CAN RGYINGSi MED RGYINGS",
      "g INVERTED MCHU CANeSUBJOINED SIGN LCE TSA CANl MCHU CANl INVERTED MCHU CANjLETTER KAnHA",
      "m GAnHAm NGAm CAnHAm JA"]),
   (0xF99,
     ["aTIBETAN SUBJOINED LETTER NYAm TTAnTHAm DDAnDHAm NNAm TAnHAm DAnHAm NAm PAnHAm BAnHAm MA",
      "m TSAnSHAm DZAnZHAm WAm ZHAnAm -Am YAm RAm LAm SHAnSAnAm HAm Am KSSAm FIXED-FORM WAsYA",
      "sRA"]),
   (0xFBE,
     ["aTIBETAN KU RU KHAiA BZHI MIG CANeCANTILLATION SIGN HEAVY BEATnLIGHT BEATnCANG TE-U",
      "nSBUB -CHALeSYMBOL DRIL BUh RDO RJEh PADMA GDANh RDO RJE RGYA GRAMh PHUR PAh NOR BU",
      "kU NYIS -KHYILlGSUM -KHYILlBZHI -KHYIL"]),
   (0xFCE,
     ["aTIBETAN SIGN RDEL NAG RDEL DKARlGSUMeMARK BSKA- SHOG GI MGO RGYAN",
      "g MNYAM YIG GI MGO RGYANg NYIS TSHEGg INITIAL BRDA RNYING YIG MGO MDUN MA",
      "g CLOSING BRDA RNYING YIG MGO SGAB MAaRIGHT-FACING SVASTI SIGNaLEFT-FACING SVASTI SIGN",
      "aRIGHT-FACING SVASTI SIGN WITH DOTSaLEFT-FACING SVASTI SIGN WITH DOTS",
      "aTIBETAN MARK LEADING MCHAN RTAGSg TRAILING MCHAN RTAGS"]),
   (0x1000,
     ["aMYANMAR LETTER KAiHAh GAiHAh NGAh CAiHAh JAiHAh NYAiNYAh TTAiTHAh DDAiDHAh NNAh TAiHA",
      "h DAiHAh NAh PAiHAh BAiHAh MAh YAh RAh LAh WAh SAh HAh LLAh Ah SHAN Ah IiIh UiUh E",
      "h MON Eh Oh AUeVOWEL SIGN TALL AAj AAj IkIj UkUj Ej AIj MON IIl Oj E ABOVEeSIGN ANUSVARA",
      "g DOT BELOWg VISARGAhIRAMAg ASATeCONSONANT SIGN MEDIAL YApRApWApHAeLETTER GREAT SA",
      "eDIGIT ZEROhONEhTWOhTHREEhFOURhFIVEhSIXhSEVENhEIGHThNINEeSIGN LITTLE SECTIONg SECTION",
      "eSYMBOL LOCATIVEh COMPLETEDh AFOREMENTIONEDh GENITIVEeLETTER SHAiSAh VOCALIC RmRl LmL",
      "eVOWEL SIGN VOCALIC RoRn LoLeLETTER MON NGAj JHAj BBAkBEeCONSONANT SIGN MON MEDIAL NArMA",
      "rLAeLETTER SGAW KAREN SHAeVOWEL SIGN SGAW KAREN EUeTONE MARK SGAW KAREN HATHIo KE PHO",
      "eLETTER WESTERN PWO KAREN THAq PWAeVOWEL SIGN WESTERN PWO KAREN EUs UE",
      "eSIGN WESTERN PWO KAREN TONE-1s2s3s4s5eLETTER EASTERN PWO KAREN NNAq YWAq GHWA",
      "eVOWEL SIGN GEBA KAREN Ij KAYAH OEm Um EEeLETTER SHAN KAkKHAkGAkCAkZAkNYAkDAkNAkPHAkFA",
      "kBAkTHAkHAeCONSONANT SIGN SHAN MEDIAL WAeVOWEL SIGN SHAN AAmEmE ABOVEmFINAL Y",
      "eSIGN SHAN TONE-2l-3l-5l-6jCOUNCIL TONE-2p-3nEMPHATIC TONEeLETTER RUMAI PALAUNG FA",
      "eSIGN RUMAI PALAUNG TONE-5eSHAN DIGIT ZEROj ONEj TWOkHREEj FOURkIVEj SIXkEVENj EIGHT",
      "j NINEeSIGN KHAMTI TONE-1m-3eVOWEL SIGN AITON AnIeSYMBOL SHAN ONEkEXCLAMATION",
      "aGEORGIAN CAPITAL LETTER ANmBANmGANmDONmENmVINmZENmTANmINmKANmLASmMANmNARmONmPARmZHAR",
      "mRAEmSANmTARmUNmPHARmKHARmGHANmQARmSHINmCHINmCANmJILmCILmCHARmXANmJHANmHAEmHEmHIEmWEmHAR",
      "mHOE"]),
   (0x10C7, ["aGEORGIAN CAPITAL LETTER YN"]),
   (0x10CD, ["aGEORGIAN CAPITAL LETTER AEN"]),
   (0x10D0,
     ["aGEORGIAN LETTER ANiBANiGANiDONiENiVINiZENiTANiINiKANiLASiMANiNARiONiPARiZHARiRAEiSAN",
      "iTARiUNiPHARiKHARiGHANiQARiSHINiCHINiCANiJILiCILiCHARiXANiJHANiHAEiHEiHIEiWEiHARiHOEiFI",
      "iYNiELIFIiTURNED GANiAINe PARAGRAPH SEPARATORaMODIFIER LETTER GEORGIAN NAR",
      "aGEORGIAN LETTER AENiHARD SIGNiLABIAL SIGNaHANGUL CHOSEONG KIYEOKiSSANGKIYEOKiNIEUN",
      "iTIKEUTiSSANGTIKEUTiRIEULiMIEUMiPIEUPiSSANGPIEUPiSIOSiSSANGSIOSiIEUNGiCIEUCiSSANGCIEUC",
      "iCHIEUCHiKHIEUKHiTHIEUTHiPHIEUPHiHIEUHiNIEUN-KIYEOKiSSANGNIEUNiNIEUN-TIKEUTlPIEUP",
      "iTIKEUT-KIYEOKiRIEUL-NIEUNiSSANGRIEULiRIEUL-HIEUHiKAPYEOUNRIEULiMIEUM-PIEUP",
      "iKAPYEOUNMIEUMiPIEUP-KIYEOKlNIEUNlTIKEUTlSIOSn-KIYEOKn-TIKEUTn-PIEUPlSSANGSIOS",
      "lSIOS-CIEUClCIEUClCHIEUCHlTHIEUTHlPHIEUPHiKAPYEOUNPIEUPmSSANGPIEUPiSIOS-KIYEOKk-NIEUN",
      "k-TIKEUTk-RIEULk-MIEUMk-PIEUPn-KIYEOKk-SSANGSIOSk-IEUNGk-CIEUClHIEUCHk-KHIEUKHk-THIEUTH",
      "k-PHIEUPHk-HIEUHiCHITUEUMSIOSmSSANGSIOSiCEONGCHIEUMSIOSoSANGSIOSiPANSIOSiIEUNG-KIYEOK",
      "lTIKEUTlMIEUMlPIEUPlSIOSlPANSIOSiSSANGIEUNGiIEUNG-CIEUClCHIEUCHlTHIEUTHlPHIEUPHiYESIEUNG",
      "iCIEUC-IEUNGiCHITUEUMCIEUCmSSANGCIEUCiCEONGCHIEUMCIEUCnMSSANGCIEUCiCHIEUCH-KHIEUKHmHIEUH",
      "jITUEUMCHIEUCHiCEONGCHIEUMCHIEUCHiPHIEUPH-PIEUPiKAPYEOUNPHIEUPHiSSANGHIEUHiYEORINHIEUH",
      "iKIYEOK-TIKEUTiNIEUN-SIOSlCIEUClHIEUHiTIKEUT-RIEULiFILLERd JUNGSEONG FILLERi AjEi YAjAE",
      "i EOji YEOjEi Oi WAjAEi OEi YOi Ui WEOjEjIi YUi EUi YIi Ii A-Oj-Ui YA-OkYOi EO-OkUkEU",
      "i YEO-Ok-Ui O-EOkj-YEj-Oj-Ui YO-YAlEkYEOkOkIi U-AkEj-EO-EUj-YEj-Ui YU-AkEOkEkYEOlkUkI",
      "i EU-UkEUi YI-Ui I-Aj-YAj-Oj-Uj-EUj-ARAEAi ARAEAl-EOl-Ul-Ii SSANGARAEAi A-EUi YA-UjEO-YA",
      "i O-YAkAEeONGSEONG KIYEOKi SSANGKIYEOKi KIYEOK-SIOSi NIEUNl-CIEUCl-HIEUHi TIKEUTi RIEUL",
      "l-KIYEOKl-MIEUMl-PIEUPl-SIOSl-THIEUTHl-PHIEUPHl-HIEUHi MIEUMi PIEUPl-SIOSi SIOSjSANGSIOS",
      "i IEUNGi CIEUCjHIEUCHi KHIEUKHi THIEUTHi PHIEUPHi HIEUHi KIYEOK-RIEULmSIOS-KIYEOK",
      "i NIEUN-KIYEOKl-TIKEUTl-SIOSl-PANSIOSl-THIEUTHi TIKEUT-KIYEOKmRIEULi RIEUL-KIYEOK-SIOS",
      "l-NIEUNl-TIKEUToT-HIEUHi SSANGRIEULi RIEUL-MIEUM-KIYEOKo-SIOSl-PIEUP-SIOSo-HIEUH",
      "l-KAPYEOUNPIEUPl-SSANGSIOSl-PANSIOSl-KHIEUKHl-YEORINHIEUHi MIEUM-KIYEOKl-RIEULl-PIEUP",
      "l-SIOSmSANGSIOSl-PANSIOSl-CHIEUCHl-HIEUHi KAPYEOUNMIEUMi PIEUP-RIEULl-PHIEUPHl-HIEUH",
      "i KAPYEOUNPIEUPi SIOS-KIYEOKlTIKEUTlRIEULlPIEUPi PANSIOSi IEUNG-KIYEOKl-SSANGKIYEOK",
      "i SSANGIEUNGi IEUNG-KHIEUKHi YESIEUNGmG-SIOSnPANSIOSi PHIEUPH-PIEUPi KAPYEOUNPHIEUPH",
      "i HIEUH-NIEUNl-RIEULl-MIEUMl-PIEUPi YEORINHIEUHi KIYEOK-NIEUNmPIEUPmCHIEUCHmKHIEUKH",
      "mHIEUHi SSANGNIEUNaETHIOPIC SYLLABLE HAjHUjHIjHAAjHEEkjHOkAjLAjLUjLIjLAAjLEEkjLOjLWAjHHA",
      "kUkIkAAkEEkEkOkWAjMAjMUjMIjMAAjMEEkjMOjMWAjSZAkUkIkAAkEEkEkOkWAjRAjRUjRIjRAAjREEkjROjRWA",
      "jSAjSUjSIjSAAjSEEkjSOjSWAjSHAkUkIkAAkEEkEkOkWAjQAjQUjQIjQAAjQEEkjQOkAjQWA"]),
   (0x124A, ["aETHIOPIC SYLLABLE QWIkAAkEEkE"]),
   (0x1250, ["aETHIOPIC SYLLABLE QHAkUkIkAAkEEkEkO"]),
   (0x1258, ["aETHIOPIC SYLLABLE QHWA"]),
   (0x125A, ["aETHIOPIC SYLLABLE QHWIkWAAkWEEl"]),
   (0x1260,
     ["aETHIOPIC SYLLABLE BAjBUjBIjBAAjBEEkjBOjBWAjVAjVUjVIjVAAjVEEkjVOjVWAjTAjTUjTIjTAAjTEEk",
      "jTOjTWAjCAjCUjCIjCAAjCEEkjCOjCWAjXAjXUjXIjXAAjXEEkjXOkAjXWA"]),
   (0x128A, ["aETHIOPIC SYLLABLE XWIkAAkEEkE"]),
   (0x1290,
     ["aETHIOPIC SYLLABLE NAjNUjNIjNAAjNEEkjNOjNWAjNYAkUkIkAAkEEkEkOkWAjGLOTTAL AnUnInAAnEEnEnO",
      "nWAjKAjKUjKIjKAAjKEEkjKOkAjKWA"]),
   (0x12B2, ["aETHIOPIC SYLLABLE KWIkAAkEEkE"]),
   (0x12B8, ["aETHIOPIC SYLLABLE KXAkUkIkAAkEEkEkO"]),
   (0x12C0, ["aETHIOPIC SYLLABLE KXWA"]),
   (0x12C2, ["aETHIOPIC SYLLABLE KXWIkWAAkWEEl"]),
   (0x12C8,
     ["aETHIOPIC SYLLABLE WAjWUjWIjWAAjWEEkjWOkAjPHARYNGEAL Ao Uo Io AAo EEpo O"]),
   (0x12D8,
     ["aETHIOPIC SYLLABLE ZAjZUjZIjZAAjZEEkjZOjZWAjZHAkUkIkAAkEEkEkOkWAjYAjYUjYIjYAAjYEEkjYOkA",
      "jDAjDUjDIjDAAjDEEkjDOjDWAjDDAkUkIkAAkEEkEkOkWAjJAjJUjJIjJAAjJEEkjJOjJWAjGAjGUjGIjGAAjGEE",
      "kjGOkAjGWA"]),
   (0x1312, ["aETHIOPIC SYLLABLE GWIkAAkEEkE"]),
   (0x1318,
     ["aETHIOPIC SYLLABLE GGAkUkIkAAkEEkEkOkWAAjTHAkUkIkAAkEEkEkOkWAjCHAkUkIkAAkEEkEkOkWAjPHAkU",
      "kIkAAkEEkEkOkWAjTSAkUkIkAAkEEkEkOkWAjTZAkUkIkAAkEEkEkOkOAjFAjFUjFIjFAAjFEEkjFOjFWAjPAjPU",
      "jPIjPAAjPEEkjPOjPWAjRYAjMYAjFYA"]),
   (0x135D,
     ["aETHIOPIC COMBINING GEMINATION AND VOWEL LENGTH MARKj VOWEL LENGTH MARKj GEMINATION MARK",
      "e SECTION MARKe WORDSPACEe FULL STOPe COMMAe SEMICOLONe COLONe PREFACE COLON",
      "e QUESTION MARKe PARAGRAPH SEPARATORe DIGIT ONEh TWOiHREEh FOURiIVEh SIXiEVENh EIGHT",
      "h NINEe NUMBER TENiTWENTYiTHIRTYiFORTYiFIFTYiSIXTYiSEVENTYiEIGHTYiNINETYiHUNDRED",
      "iTEN THOUSAND"]),
   (0x1380,
     ["aETHIOPIC SYLLABLE SEBATBEIT MWAjMWIkEEkEjSEBATBEIT BWAjBWIkEEkEjSEBATBEIT FWAjFWIkEEkE",
      "jSEBATBEIT PWAjPWIkEEkEe TONAL MARK YIZETkDERETkRIKRIKkSHORT RIKRIKkDIFATkKENATkCHIRET",
      "kHIDETkDERET-HIDETkKURT"]),
   (0x13A0,
     ["aCHEROKEE LETTER AiEiIiOiUiViGAiKAiGEiGIiGOiGUiGViHAiHEiHIiHOiHUiHViLAiLEiLIiLOiLUiLViMA",
      "iMEiMIiMOiMUiNAiHNAiNAHiNEiNIiNOiNUiNViQUAjEjIjOjUjViSAiSiSEiSIiSOiSUiSViDAiTAiDEiTEiDI",
      "iTIiDOiDUiDViDLAiTLAjEjIjOjUjViTSAjEjIjOjUjViWAiWEiWIiWOiWUiWViYAiYEiYIiYOiYUiYViMV"]),
   (0x13F8, ["aCHEROKEE SMALL LETTER YElYIlYOlYUlYVlMV"])]

end TreeQuote.CharacterName

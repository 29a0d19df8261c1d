/-
TreeQuote/Text/CharacterName/EastAsian.lean

The names of the scripts of East Asia and of its neighbours, in runs of code points with
names.  How a run is written is said where runs are read.
-/

namespace TreeQuote.CharacterName

/-- Runs of names of the scripts of East Asia and of its neighbours. -/
def eastAsian : List (Nat × List String) :=
  [(0x3000,
     ["aIDEOGRAPHIC SPACEgCOMMAgFULL STOPaDITTO MARKaJAPANESE INDUSTRIAL STANDARD SYMBOL",
      "aIDEOGRAPHIC ITERATION MARKgCLOSING MARKgNUMBER ZEROaLEFT ANGLE BRACKET",
      "aRIGHT ANGLE BRACKETaLEFT DOUBLE ANGLE BRACKETaRIGHT DOUBLE ANGLE BRACKET",
      "aLEFT CORNER BRACKETaRIGHT CORNER BRACKETaLEFT WHITE CORNER BRACKET",
      "aRIGHT WHITE CORNER BRACKETaLEFT BLACK LENTICULAR BRACKETaRIGHT BLACK LENTICULAR BRACKET",
      "aPOSTAL MARKaGETA MARKaLEFT TORTOISE SHELL BRACKETaRIGHT TORTOISE SHELL BRACKET",
      "aLEFT WHITE LENTICULAR BRACKETaRIGHT WHITE LENTICULAR BRACKET",
      "aLEFT WHITE TORTOISE SHELL BRACKETaRIGHT WHITE TORTOISE SHELL BRACKET",
      "aLEFT WHITE SQUARE BRACKETaRIGHT WHITE SQUARE BRACKETaWAVE DASH",
      "aREVERSED DOUBLE PRIME QUOTATION MARKaDOUBLE PRIME QUOTATION MARK",
      "aLOW DOUBLE PRIME QUOTATION MARKaPOSTAL MARK FACEaHANGZHOU NUMERAL ONEi TWOjHREEi FOUR",
      "jIVEi SIXjEVENi EIGHTi NINEaIDEOGRAPHIC LEVEL TONE MARKgRISING TONE MARK",
      "gDEPARTING TONE MARKgENTERING TONE MARKaHANGUL SINGLE DOT TONE MARK",
      "d DOUBLE DOT TONE MARKaWAVY DASHaVERTICAL KANA REPEAT MARKk WITH VOICED SOUND MARK",
      "k MARK UPPER HALFk WITH VOICED SOUND MARK UPPER HALFk MARK LOWER HALF",
      "aCIRCLED POSTAL MARKaIDEOGRAPHIC TELEGRAPH LINE FEED SEPARATOR SYMBOL",
      "aHANGZHOU NUMERAL TENjWENTYjHIRTYaVERTICAL IDEOGRAPHIC ITERATION MARKaMASU MARK",
      "aPART ALTERNATION MARKaIDEOGRAPHIC VARIATION INDICATORgHALF FILL SPACE"]),
   (0x3041,
     ["aHIRAGANA LETTER SMALL AiAiSMALL IiIiSMALL UiUiSMALL EiEiSMALL OiOiKAiGAiKIiGIiKUiGUiKE",
      "iGEiKOiGOiSAiZAiSIiZIiSUiZUiSEiZEiSOiZOiTAiDAiTIiDIiSMALL TUiTUiDUiTEiDEiTOiDOiNAiNIiNU",
      "iNEiNOiHAiBAiPAiHIiBIiPIiHUiBUiPUiHEiBEiPEiHOiBOiPOiMAiMIiMUiMEiMOiSMALL YAiYAiSMALL YU",
      "iYUiSMALL YOiYOiRAiRIiRUiREiROiSMALL WAiWAiWIiWEiWOiNiVUiSMALL KAlKE"]),
   (0x3099,
     ["aCOMBINING KATAKANA-HIRAGANA VOICED SOUND MARKoSEMI-VOICED SOUND MARK",
      "aKATAKANA-HIRAGANA VOICED SOUND MARKjSEMI-VOICED SOUND MARKaHIRAGANA ITERATION MARK",
      "e VOICED ITERATION MARKe DIGRAPH YORIaKATAKANA-HIRAGANA DOUBLE HYPHENe LETTER SMALL AiA",
      "iSMALL IiIiSMALL UiUiSMALL EiEiSMALL OiOiKAiGAiKIiGIiKUiGUiKEiGEiKOiGOiSAiZAiSIiZIiSUiZU",
      "iSEiZEiSOiZOiTAiDAiTIiDIiSMALL TUiTUiDUiTEiDEiTOiDOiNAiNIiNUiNEiNOiHAiBAiPAiHIiBIiPIiHU",
      "iBUiPUiHEiBEiPEiHOiBOiPOiMAiMIiMUiMEiMOiSMALL YAiYAiSMALL YUiYUiSMALL YOiYOiRAiRIiRUiRE",
      "iROiSMALL WAiWAiWIiWEiWOiNiVUiSMALL KAlKEiVAiVIiVEiVOe MIDDLE DOT",
      "e-HIRAGANA PROLONGED SOUND MARKe ITERATION MARKe VOICED ITERATION MARKe DIGRAPH KOTO"]),
   (0x3105,
     ["aBOPOMOFO LETTER BiPiMiFiDiTiNiLiGiKiHiJiQiXiZHiCHiSHiRiZiCiSiAiOiEiEHiAIiEIiAUiOUiANiEN",
      "iANGiENGiERiIiUiIUiViNGiGNiIHiO WITH DOT ABOVEiNN"]),
   (0x3131,
     ["aHANGUL LETTER KIYEOKhSSANGKIYEOKhKIYEOK-SIOShNIEUNjN-CIEUCkHIEUHhTIKEUThSSANGTIKEUT",
      "hRIEULjL-KIYEOKkMIEUMkPIEUPkSIOSkTHIEUTHkPHIEUPHkHIEUHhMIEUMhPIEUPhSSANGPIEUPhPIEUP-SIOS",
      "hSIOShSSANGSIOShIEUNGhCIEUChSSANGCIEUChCHIEUCHhKHIEUKHhTHIEUTHhPHIEUPHhHIEUHhAhAEhYAiE",
      "hEOhEhYEOihOhWAiEhOEhYOhUhWEOihWIhYUhEUhYIhId FILLERd LETTER SSANGNIEUNhNIEUN-TIKEUT",
      "kSIOSkPANSIOShRIEUL-KIYEOK-SIOSkTIKEUTkPIEUP-SIOSkPANSIOSkYEORINHIEUHhMIEUM-PIEUPkSIOS",
      "kPANSIOShKAPYEOUNMIEUMhPIEUP-KIYEOKkTIKEUTkSIOS-KIYEOKm-TIKEUTkCIEUCkTHIEUTH",
      "hKAPYEOUNPIEUPlSSANGPIEUPhSIOS-KIYEOKj-NIEUNj-TIKEUTj-PIEUPj-CIEUChPANSIOShSSANGIEUNG",
      "hYESIEUNGl-SIOSl-PANSIOShKAPYEOUNPHIEUPHhSSANGHIEUHhYEORINHIEUHhYO-YAjAEi-IhYU-YEOjEi-I",
      "hARAEAjAE"]),
   (0x3190,
     ["aIDEOGRAPHIC ANNOTATION LINKING MARKl REVERSE MARKl ONE MARKl TWO MARKmHREE MARK",
      "l FOUR MARKl TOP MARKl MIDDLE MARKl BOTTOM MARKl FIRST MARKl SECOND MARKl THIRD MARK",
      "l FOURTH MARKl HEAVEN MARKl EARTH MARKl MAN MARKaBOPOMOFO LETTER BUiZIiJIiGUiEEiENNiOO",
      "iONNiIRiANNiINNiUNNiIMiNGGiAINNiAUNNiAMiOMiONGiINNNe FINAL LETTER PlTlKlHe LETTER GHiLH",
      "iZYe FINAL LETTER Ge LETTER GWiKWiOEiAHaCJK STROKE Tf WGf XGf BXGf SWf HZZgZGgPgZWG",
      "f SZWGf HZTgZZPgPWGgZWgZZZf Nf Hf Sf Pf SPf Df HZgGf SZgWZgTgGf PDgZf TNf SZZgWGf HXWG",
      "gZZZGf PGf Q"]),
   (0x31F0,
     ["aKATAKANA LETTER SMALL KUlSIlSUlTOlNUlHAlHIlHUlHElHOlMUlRAlRIlRUlRElRO",
      "aPARENTHESIZED HANGUL KIYEOKk NIEUNk TIKEUTk RIEULk MIEUMk PIEUPk SIOSk IEUNGk CIEUC",
      "lHIEUCHk KHIEUKHk THIEUTHk PHIEUPHk HIEUHk KIYEOK Ak NIEUN Ak TIKEUT Ak RIEUL Ak MIEUM A",
      "k PIEUP Ak SIOS Ak IEUNG Ak CIEUC AlHIEUCH Ak KHIEUKH Ak THIEUTH Ak PHIEUPH Ak HIEUH A",
      "k CIEUC UhKOREAN CHARACTER OJEONq HU"]),
   (0x3220,
     ["aPARENTHESIZED IDEOGRAPH ONEmTWOmTHREEmFOURmFIVEmSIXmSEVENmEIGHTmNINEmTENmMOONmFIRE",
      "mWATERmWOODmMETALmEARTHmSUNmSTOCKmHAVEmSOCIETYmNAMEmSPECIALmFINANCIALmCONGRATULATION",
      "mLABORmREPRESENTmCALLmSTUDYmSUPERVISEmENTERPRISEmRESOURCEmALLIANCEmFESTIVALmRESTmSELF",
      "mREACHaCIRCLED IDEOGRAPH QUESTIONjKINDERGARTENjSCHOOLjKOTOeNUMBER TEN ON BLACK SQUARE",
      "iWENTY ON BLACK SQUAREiHIRTY ON BLACK SQUAREh FORTY ON BLACK SQUAREiIFTY ON BLACK SQUARE",
      "h SIXTY ON BLACK SQUAREiEVENTY ON BLACK SQUAREh EIGHTY ON BLACK SQUAREaPARTNERSHIP SIGN",
      "aCIRCLED NUMBER TWENTY ONElTWOlTHREElFOURlFIVElSIXlSEVENlEIGHTlNINEiHIRTYkY ONElTWO",
      "lTHREElFOURlFIVEeHANGUL KIYEOKh NIEUNh TIKEUTh RIEULh MIEUMh PIEUPh SIOSh IEUNGh CIEUC",
      "iHIEUCHh KHIEUKHh THIEUTHh PHIEUPHh HIEUHh KIYEOK Ah NIEUN Ah TIKEUT Ah RIEUL Ah MIEUM A",
      "h PIEUP Ah SIOS Ah IEUNG Ah CIEUC AiHIEUCH Ah KHIEUKH Ah THIEUTH Ah PHIEUPH Ah HIEUH A",
      "eKOREAN CHARACTER CHAMKOm JUEUIeHANGUL IEUNG UaKOREAN STANDARD SYMBOL",
      "aCIRCLED IDEOGRAPH ONEjTWOjTHREEjFOURjFIVEjSIXjSEVENjEIGHTjNINEjTENjMOONjFIREjWATERjWOOD",
      "jMETALjEARTHjSUNjSTOCKjHAVEjSOCIETYjNAMEjSPECIALjFINANCIALjCONGRATULATIONjLABORjSECRET",
      "jMALEjFEMALEjSUITABLEjEXCELLENTjPRINTjATTENTIONjITEMjRESTjCOPYkRRECTjHIGHjCENTREjLOW",
      "jLEFTjRIGHTjMEDICINEjRELIGIONjSTUDYjSUPERVISEjENTERPRISEjRESOURCEjALLIANCEjNIGHT",
      "eNUMBER THIRTY SIXlSEVENlEIGHTlNINEh FORTYk ONEk TWOlHREEk FOURlIVEk SIXlEVENk EIGHT",
      "k NINEiIFTYaIDEOGRAPHIC TELEGRAPH SYMBOL FOR JANUARYq FEBRUARYq MARCHq APRILq MAYq JUNE",
      "rULYq AUGUSTq SEPTEMBERq OCTOBERq NOVEMBERq DECEMBERaSQUARE HGd ERGeV",
      "aLIMITED LIABILITY SIGNaCIRCLED KATAKANA Ai Ii Ui Ei Oi KAjIjUjEjOi SAjIjUjEjOi TAjIjUjE",
      "jOi NAjIjUjEjOi HAjIjUjEjOi MAjIjUjEjOi YAjUjOi RAjIjUjEjOi WAjIjEjO",
      "aSQUARE ERA NAME REIWAd APAATOeRUHUAeNPEAeARUd ININGUeNTId UONd ESUKUUDOeEKAAd ONSUeOMU",
      "d KAIRIeARATTOfORIId GARONeANMAeIGAeINIId KYURIId GIRUDAAd KIROfOGURAMUfOMEETORUfOWATTO",
      "d GURAMUgUTONd KURUZEIROfOONEeEESUeORUNAeOOPOd SAIKURUeANTIIMUeIRINGUeENTIfTOd DAASUeESI",
      "eORUd TONd NANOeOTTOd HAITUd PAASENTOfTUd BAARERUd PIASUTORUeIKURUfOd BIRUd HUARADDO",
      "eUIITOd BUSSYERUd HURANeEKUTAARUd PESOeENIHId HERUTUd PENSUeEEZId BEETAd POINTOd BORUTO",
      "d HONd PONDOd HOORUfNd MAIKUROfRUeAHHAeARUKUeANSYONeIKURONeIRIfIBAARUeEGAfATONeEETORU",
      "d YAADOfRUeUANd RITTORUeIRAeUPIIeUUBURUeEMUeENTOGENd WATTO",
      "aIDEOGRAPHIC TELEGRAPH SYMBOL FOR HOUR ZEROtONEtTWOtTHREEtFOURtFIVEtSIXtSEVENtEIGHTtNINE",
      "tTENtELEVENtTWELVEtTHIRTEENtFOURTEENtFIFTEENtSIXTEENtSEVENTEENtEIGHTEENtNINETEENtTWENTY",
      "w-ONEw-TWOxHREEw-FOURaSQUARE HPAd DAd AUd BARd OVd PCd DMeM SQUAREDfCUBEDd IU",
      "d ERA NAME HEISEIiSYOUWAiTAISYOUiMEIZId CORPORATIONd PA AMPSd NAd MU AeAd KAeBd MBd GB",
      "d CALd KCALd PFd NFd MU FfGeGd KGd HZd KHZd MHZd GHZd THZd MU LeLd DLd KLd FMd NMd MU M",
      "eMd CMd KMd MM SQUAREDd CM SQUAREDd M SQUAREDd KM SQUAREDd MM CUBEDd CM CUBEDd M CUBED",
      "d KM CUBEDd M OVER ShS SQUAREDd PAd KPAd MPAd GPAd RADf OVER SiS SQUAREDd PSd NSd MU SeS",
      "d PVd NVd MU VeVd KVd MV MEGAd PWd NWd MU WeWd KWd MW MEGAd K OHMd M OHMd AMd BQd CCeD",
      "e OVER KGeOd DBd GYd HAePd INd KKeM CAPITALeTd LMeNeOGeXd MB SMALLeILeOLd PHeMePMeRd SR",
      "eVd WBd V OVER Md A OVER MaIDEOGRAPHIC TELEGRAPH SYMBOL FOR DAY ONEs TWOtHREEs FOURtIVE",
      "s SIXtEVENs EIGHTs NINEs TENs ELEVENs TWELVEtHIRTEENs FOURTEENtIFTEENs SIXTEENtEVENTEEN",
      "s EIGHTEENs NINETEENs TWENTYvY-ONEwTWOwTHREEwFOURwFIVEwSIXwSEVENwEIGHTwNINEtHIRTYvY-ONE",
      "aSQUARE GAL"]),
   (0x4DC0,
     ["aHEXAGRAM FOR THE CREATIVE HEAVENi RECEPTIVE EARTHg DIFFICULTY AT THE BEGINNING",
      "g YOUTHFUL FOLLYg WAITINGg CONFLICTg THE ARMYg HOLDING TOGETHERg SMALL TAMINGg TREADING",
      "g PEACEg STANDSTILLg FELLOWSHIPg GREAT POSSESSIONg MODESTYg ENTHUSIASMg FOLLOWING",
      "g WORK ON THE DECAYEDg APPROACHg CONTEMPLATIONg BITING THROUGHg GRACEg SPLITTING APART",
      "g RETURNg INNOCENCEg GREAT TAMINGg MOUTH CORNERSg GREAT PREPONDERANCEg THE ABYSMAL WATER",
      "i CLINGING FIREg INFLUENCEg DURATIONg RETREATg GREAT POWERg PROGRESS",
      "g DARKENING OF THE LIGHTg THE FAMILYg OPPOSITIONhBSTRUCTIONg DELIVERANCEhECREASE",
      "g INCREASEg BREAKTHROUGHg COMING TO MEETg GATHERING TOGETHERg PUSHING UPWARDg OPPRESSION",
      "g THE WELLg REVOLUTIONg THE CAULDRONi AROUSING THUNDERi KEEPING STILL MOUNTAIN",
      "g DEVELOPMENTg THE MARRYING MAIDENg ABUNDANCEg THE WANDERERi GENTLE WINDi JOYOUS LAKE",
      "g DISPERSIONg LIMITATIONg INNER TRUTHg SMALL PREPONDERANCEg AFTER COMPLETION",
      "g BEFORE COMPLETION"]),
   (0xA000,
     ["aYI SYLLABLE ITgIXgIgIPgIEThXhhPgATgAXgAgAPgUOXhhPgOTgOXgOgOPgEXgEgWUgBIThXhhPhEThEXhE",
      "hEPgBAThXhhPgBUOXhOhOPgBOThXhhPgBEXhhPgBUThXhhPhRXhRgBYThXhhPhRXhRgPIThXhhPhEXhEhEPgPAT",
      "hXhhPgPUOXhOhOPgPOThXhhPgPUThXhhPhRXhRgPYThXhhPhRXhRgBBIThIXhIhIPhIETiXiiPhAThAXhAhAP",
      "hUOXiiPhOThOXhOhOPhEXhEhEPhUThUXhUhUPhURXihYThYXhYhYPgNBIThIXhIhIPhIEXiiPhAThAXhAhAPhOT",
      "hOXhOhOPhUThUXhUhUPhURXihYThYXhYhYPhYRXigHMIThIXhIhIPhIEXiiPhAThAXhAhAPhUOXiiPhOThOXhO",
      "hOPhUThUXhUhUPhURXihYXhYhYPhYRXigMIThXhhPhEXhEhEPgMAThXhhPgMUOThOXhOhOPgMOThXhhPgMEXh",
      "gMUThXhhPhRXhRgMYThXhhPgFIThXhhPgFAThXhhPgFOXhhPgFUThXhhPhRXhRgFYThXhhPgVIThXhhPhEThEXhE",
      "hEPgVAThXhhPgVOThXhhPgVEXhPgVUThXhhPhRXhRgVYThXhhPhRXhRgDIThXhhPhEXhEhEPgDAThXhhPgDUOXhO",
      "gDOThXhhPgDEXhhPgDUThXhhPhRXhRgTIThXhhPhEXhEhEPgTAThXhhPgTUOThOXhOhOPgTOThXhhPgTEXhhP",
      "gTUThXhhPhRXhRgDDIThIXhIhIPhIEXiiPhAThAXhAhAPhUOXiiPhOThOXhOhOPhEXhEhEPhUThUXhUhUPhURXi",
      "gNDIThIXhIhIPhIEXihAThAXhAhAPhOThOXhOhOPhEXhEhEPhUThUXhUhUPhURXigHNIThIXhIhIPhIETiXiiP",
      "hAThAXhAhAPhUOXihOThOXhOPhEXhEhEPhUTgNIThXhhPhEXhEhEPgNAXhhPgNUOXhOhOPgNOThXhhPgNEXhhP",
      "gNUThXhhPhRXhRgHLIThIXhIhIPhIEXiiPhAThAXhAhAPhUOXiiPhOXhOhOPhEXhEhEPhUThUXhUhUPhURXihYT",
      "hYXhYhYPhYRXigLIThXhhPhEThEXhEhEPgLAThXhhPgLUOThOXhOhOPgLOThXhhPgLEXhhPgLUThXhhPhRXhR",
      "gLYThXhhPhRXhRgGIThXhhPhEThEXhEhEPgGAThXhhPgGUOThOXhOhOPgGOThXhhPgGEThXhhPgGUThXhhPhRXhR",
      "gKIThXhhPhEXhEhEPgKAThXhhPgKUOXhOhOPgKOThXhhPgKEThXhhPgKUThXhhPhRXhRgGGIThIXhIhIEXiiPhAT",
      "hAXhAhAPhUOTiXiiPhOThOXhOhOPhEThEXhEhEPhUThUXhUhUPhURXigMGIEXihAThAXhAhAPhUOXiiPhOThOXhO",
      "hOPhEXhEhEPhUThUXhUhUPhURXigHXIThIXhIhIPhIETiXiiPhAThAXhAhAPhUOTiXiiPhOThOXhOhOPhEXhEhEP",
      "gNGIEXiiPhAThAXhAhAPhUOTiXihOThOXhOhOPhEXhEhEPgHIThEXhEgHAThXhhPgHUOThOXhOhOPgHOThXhhP",
      "gHEXhhPgWAThXhhPgWUOXhOhOPgWOXhhPgWEXhhPgZIThXhhPhEXhEhEPgZAThXhhPgZUOXhOhOPgZOThXhhP",
      "gZEXhhPgZUThXhhPhRXhRgZYThXhhPhRXhRgCIThXhhPhEThEXhEhEPgCAThXhhPgCUOXhOhOPgCOThXhhPgCEXh",
      "hPgCUThXhhPhRXhRgCYThXhhPhRXhRgZZIThIXhIhIPhIETiXiiPhAThAXhAhAPhOXhOhOPhEXhEhEPhUXhUhUP",
      "hURXihYThYXhYhYPhYRXigNZIThIXhIhIPhIEXiiPhAThAXhAhAPhUOXihOXhOPhEXhEhUXhUhUPhURXihYThYX",
      "hYhYPhYRXigSIThXhhPhEXhEhEPgSAThXhhPgSUOXhOhOPgSOThXhhPgSEXhhPgSUThXhhPhRXhRgSYThXhhPhRX",
      "hRgSSIThIXhIhIPhIEXiiPhAThAXhAhAPhOThOXhOhOPhEXhEhEPhUThUXhUhUPhYThYXhYhYPhYRXigZHAThAX",
      "hAhAPhUOXiiPhOThOXhOhOPhEThEXhEhEPhUThUXhUhUPhURXihYThYXhYhYPhYRXigCHAThAXhAhAPhUOTiXiiP",
      "hOThOXhOhOPhEThEXhEhEPhUXhUhUPhURXihYThYXhYhYPhYRXigRRAXhAhUOXihOThOXhOhOPhEThEXhEhEPhUT",
      "hUXhUhUPhURXihYThYXhYhYPhYRXigNRAThAXhAhAPhOXhOhOPhEThEXhEhEPhUThUXhUhUPhURXihYThYXhYhYP",
      "hYRXigSHAThAXhAhAPhUOXiiPhOThOXhOhOPhEThEXhEhEPhUThUXhUhUPhURXihYThYXhYhYPhYRXigRAThXhhP",
      "gRUOXhOhOPgROThXhhPgREXhhPgRUThXhhPhRXhRgRYThXhhPhRXhRgJIThXhhPhEThEXhEhEPgJUOThOXhOhOP",
      "gJOThXhhPgJUThXhhPhRXhRgJYThXhhPhRXhRgQIThXhhPhEThEXhEhEPgQUOThOXhOhOPgQOThXhhPgQUThXhhP",
      "hRXhRgQYThXhhPhRXhRgJJIThIXhIhIPhIETiXiiPhUOXiiPhOThOXhOhOPhUThUXhUhUPhURXihYThYXhYhYP",
      "gNJIThIXhIhIPhIETiXiiPhUOXihOThOXhOhOPhUXhUhUPhURXihYThYXhYhYPhYRXigNYIThIXhIhIPhIETiXi",
      "iPhUOXiiPhOThOXhOhOPhUThUXhUhUPgXIThXhhPhEThEXhEhEPgXUOXhOgXOThXhhPgXYThXhhPhRXhRgYIThXh",
      "hPhEThEXhEhEPgYUOThOXhOhOPgYOThXhhPgYUThXhhPhRXhRgYYThXhhPhRXhR"]),
   (0xA490,
     ["aYI RADICAL QOTf LIf KITf NYIPf CYPf SSIf GGOPgEPf MIf HXITf LYRf BBUTf MOPf YOf PUT",
      "f HXUOf TATf GAf ZUPf CYTf DDURf BURf GGUOf NYOPf TUf OPf JJUTf ZOTf PYTf HMOf YITf VUR",
      "f SHYf VEPf ZAf JOf NZUPf JJYf GOTf JJIEf WOf DUf SHURf LIEf CYgUOPgIPf HXOPf SHATf ZUR",
      "f SHOPf CHEf ZZIETf NBIEf KE"]),
   (0xA4D0,
     ["aLISU LETTER BAgPAgPHAgDAgTAgTHAgGAgKAgKHAgJAgCAgCHAgDZAgTSAhHAgMAgNAgLAgSAgZHAgZAgNGA",
      "gHAgXAgHHAgFAgWAgSHAgYAgGHAgAgAEgEgEUgIgOgUgUEgUHgOEgTONE MYA TIi NA POi MYA CYAk BOk NA",
      "k JEUc PUNCTUATION COMMAi FULL STOPaVAI SYLLABLE EEhENg HEEg WEEiNg PEEg BHEEhEEg MBEE",
      "g KPEEg MGBEEg GBEEg FEEg VEEg TEEhHEEg DHEEhHHEEg LEEg REEg DEEg NDEEg SEEhHEEg ZEEhHEE",
      "g CEEg JEEg NJEEg YEEg KEEg NGGEEg GEEg MEEg NEEhYEEg IhNg HIhINg WIhINg PIg BHIhIg MBI",
      "g KPIg MGBIg GBIg FIg VIg TIhHIg DHIhHHIg LIg RIg DIg NDIg SIhHIg ZIhHIg CIg JIg NJIg YI",
      "g KIg NGGIg GIg MIg NIhYIg AhNg NGANg HAhANg WAhANg PAg BHAhAg MBAg KPAiNg MGBAg GBAg FA",
      "g VAg TAhHAg DHAhHHAg LAg RAg DAg NDAg SAhHAg ZAhHAg CAg JAg NJAg YAg KAhANg NGGAg GA",
      "g MAg NAhYAg OOhONg HOOg WOOiNg POOg BHOOhOOg MBOOg KPOOg MGBOOg GBOOg FOOg VOOg TOOhHOO",
      "g DHOOhHHOOg LOOg ROOg DOOg NDOOg SOOhHOOg ZOOhHOOg COOg JOOg NJOOg YOOg KOOg NGGOOg GOO",
      "g MOOg NOOhYOOg UhNg HUhUNg WUhUNg PUg BHUhUg MBUg KPUg MGBUg GBUg FUg VUg TUhHUg DHU",
      "hHHUg LUg RUg DUg NDUg SUhHUg ZUhHUg CUg JUg NJUg YUg KUg NGGUg GUg MUg NUhYUg OhNg NGON",
      "g HOhONg WOhONg POg BHOhOg MBOg KPOg MGBOg GBOiNg FOg VOg TOhHOg DHOhHHOg LOg ROg DO",
      "g NDOg SOhHOg ZOhHOg COg JOg NJOg YOg KOg NGGOg GOg MOg NOhYOg EhNg NGENg HEhENg WEhEN",
      "g PEg BHEhEg MBEg KPEiNg MGBEg GBEiNg FEg VEg TEhHEg DHEhHHEg LEg REg DEg NDEg SEhHEg ZE",
      "hHEg CEg JEg NJEg YEg KEg NGGEiENg GEhENg MEg NEhYEhGg LENGTHENERcCOMMAcFULL STOP",
      "cQUESTION MARKcSYLLABLE NDOLE FAj KAj SOOdMBOL FEENGf KEENGf TINGf NIIf BANGf FAAf TAA",
      "f DANGgOONGf KUNGf TONGf DO-Of JONGcDIGIT ZEROfONEfTWOfTHREEfFOURfFIVEfSIXfSEVENfEIGHT",
      "fNINEcSYLLABLE NDOLE MAj DO"]),
   (0xA640,
     ["aCYRILLIC CAPITAL LETTER ZEMLYAe SMALL LETTER ZEMLYAe CAPITAL LETTER DZELO",
      "e SMALL LETTER DZELOe CAPITAL LETTER REVERSED DZEe SMALL LETTER REVERSED DZE",
      "e CAPITAL LETTER IOTAe SMALL LETTER IOTAe CAPITAL LETTER DJERVe SMALL LETTER DJERV",
      "e CAPITAL LETTER MONOGRAPH UKe SMALL LETTER MONOGRAPH UKe CAPITAL LETTER BROAD OMEGA",
      "e SMALL LETTER BROAD OMEGAe CAPITAL LETTER NEUTRAL YERe SMALL LETTER NEUTRAL YER",
      "e CAPITAL LETTER YERU WITH BACK YERe SMALL LETTER YERU WITH BACK YER",
      "e CAPITAL LETTER IOTIFIED YATe SMALL LETTER IOTIFIED YATe CAPITAL LETTER REVERSED YU",
      "e SMALL LETTER REVERSED YUe CAPITAL LETTER IOTIFIED Ae SMALL LETTER IOTIFIED A",
      "e CAPITAL LETTER CLOSED LITTLE YUSe SMALL LETTER CLOSED LITTLE YUS",
      "e CAPITAL LETTER BLENDED YUSe SMALL LETTER BLENDED YUS",
      "e CAPITAL LETTER IOTIFIED CLOSED LITTLE YUSe SMALL LETTER IOTIFIED CLOSED LITTLE YUS",
      "e CAPITAL LETTER YNe SMALL LETTER YNe CAPITAL LETTER REVERSED TSE",
      "e SMALL LETTER REVERSED TSEe CAPITAL LETTER SOFT DEe SMALL LETTER SOFT DE",
      "e CAPITAL LETTER SOFT ELe SMALL LETTER SOFT ELe CAPITAL LETTER SOFT EM",
      "e SMALL LETTER SOFT EMe CAPITAL LETTER MONOCULAR Oe SMALL LETTER MONOCULAR O",
      "e CAPITAL LETTER BINOCULAR Oe SMALL LETTER BINOCULAR O",
      "e CAPITAL LETTER DOUBLE MONOCULAR Oe SMALL LETTER DOUBLE MONOCULAR O",
      "e LETTER MULTIOCULAR OaCOMBINING CYRILLIC VZMETj TEN MILLIONS SIGN",
      "j HUNDRED MILLIONS SIGNj THOUSAND MILLIONS SIGNaSLAVONIC ASTERISK",
      "aCOMBINING CYRILLIC LETTER UKRAINIAN IEnInYInUnHARD SIGNnYERUnSOFT SIGNnOMEGAj KAVYKA",
      "j PAYEROKaCYRILLIC KAVYKAe PAYEROKe CAPITAL LETTER DWEe SMALL LETTER DWE",
      "e CAPITAL LETTER DZWEe SMALL LETTER DZWEe CAPITAL LETTER ZHWEe SMALL LETTER ZHWE",
      "e CAPITAL LETTER CCHEe SMALL LETTER CCHEe CAPITAL LETTER DZZEe SMALL LETTER DZZE",
      "e CAPITAL LETTER TE WITH MIDDLE HOOKe SMALL LETTER TE WITH MIDDLE HOOK",
      "e CAPITAL LETTER TWEe SMALL LETTER TWEe CAPITAL LETTER TSWEe SMALL LETTER TSWE",
      "e CAPITAL LETTER TSSEe SMALL LETTER TSSEe CAPITAL LETTER TCHEe SMALL LETTER TCHE",
      "e CAPITAL LETTER HWEe SMALL LETTER HWEe CAPITAL LETTER SHWEe SMALL LETTER SHWE",
      "e CAPITAL LETTER DOUBLE Oe SMALL LETTER DOUBLE Oe CAPITAL LETTER CROSSED O",
      "e SMALL LETTER CROSSED OaMODIFIER LETTER CYRILLIC HARD SIGNm SOFT SIGN",
      "aCOMBINING CYRILLIC LETTER EFnIOTIFIED EaBAMUM LETTER Ag KAg Ug KUg EEg REEg TAEg Og NYI",
      "g Ig LAg PAg RIIhIEEg LEEEEg MEEEEg TAAg NDAAhJAEMg Mg SUUg MUg SHIIhIhHEUXhEUXg KYEEhET",
      "g NUAEhUhJUAEg YOQg SHUg YUQhAg NSHAg KEUXg PEUXg NJEEhTEEg PUEg WUEg PEEg FEEg RUg LU",
      "g MIg NIg REUXhAEg KENg NGKWAENhGGAhGAg SHOg PUAEg FUhOMg WAg NAg LIg PIg LOQg KOg MBEN",
      "g RENg MENhAg TIg KIg MOhBAAg TETg KPAg TENg NTUUg SAMBAg FAAMAEg KOVUUhOGHOM",
      "dCOMBINING MARK KOQNDONk TUKWENTISdNJAEMLIdFULL STOPdCOLONeMMAdSEMICOLONdQUESTION MARK"]),
   (0xA700,
     ["aMODIFIER LETTER CHINESE TONE YIN PINGpANG PINGpIN SHANGpANG SHANGpIN QUpANG QUpIN RU",
      "pANG RUiEXTRA-HIGH DOTTED TONE BARiHIGH DOTTED TONE BARiMID DOTTED TONE BAR",
      "iLOW DOTTED TONE BARiEXTRA-LOW DOTTED TONE BARlHIGH DOTTED LEFT-STEM TONE BAR",
      "iHIGH DOTTED LEFT-STEM TONE BARiMID DOTTED LEFT-STEM TONE BAR",
      "iLOW DOTTED LEFT-STEM TONE BARiEXTRA-LOW DOTTED LEFT-STEM TONE BAR",
      "lHIGH LEFT-STEM TONE BARiHIGH LEFT-STEM TONE BARiMID LEFT-STEM TONE BAR",
      "iLOW LEFT-STEM TONE BARiEXTRA-LOW LEFT-STEM TONE BARiDOT VERTICAL BARkSLASH",
      "kHORIZONTAL BARiLOWER RIGHT CORNER ANGLEiRAISED UP ARROWl DOWN ARROWl EXCLAMATION MARK",
      "l INVERTED EXCLAMATION MARKiLOW INVERTED EXCLAMATION MARKiSTRESS AND HIGH TONEn LOW TONE",
      "aLATIN CAPITAL LETTER EGYPTOLOGICAL ALEFdSMALL LETTER EGYPTOLOGICAL ALEF",
      "dCAPITAL LETTER EGYPTOLOGICAL AINdSMALL LETTER EGYPTOLOGICAL AINdCAPITAL LETTER HENG",
      "dSMALL LETTER HENGdCAPITAL LETTER TZdSMALL LETTER TZdCAPITAL LETTER TRESILLO",
      "dSMALL LETTER TRESILLOdCAPITAL LETTER CUATRILLOdSMALL LETTER CUATRILLO",
      "dCAPITAL LETTER CUATRILLO WITH COMMAdSMALL LETTER CUATRILLO WITH COMMA",
      "dLETTER SMALL CAPITAL Fn SdCAPITAL LETTER AAdSMALL LETTER AAdCAPITAL LETTER AO",
      "dSMALL LETTER AOdCAPITAL LETTER AUdSMALL LETTER AUdCAPITAL LETTER AVdSMALL LETTER AV",
      "dCAPITAL LETTER AV WITH HORIZONTAL BARdSMALL LETTER AV WITH HORIZONTAL BAR",
      "dCAPITAL LETTER AYdSMALL LETTER AYdCAPITAL LETTER REVERSED C WITH DOT",
      "dSMALL LETTER REVERSED C WITH DOTdCAPITAL LETTER K WITH STROKE",
      "dSMALL LETTER K WITH STROKEdCAPITAL LETTER K WITH DIAGONAL STROKE",
      "dSMALL LETTER K WITH DIAGONAL STROKEdCAPITAL LETTER K WITH STROKE AND DIAGONAL STROKE",
      "dSMALL LETTER K WITH STROKE AND DIAGONAL STROKEdCAPITAL LETTER BROKEN L",
      "dSMALL LETTER BROKEN LdCAPITAL LETTER L WITH HIGH STROKEdSMALL LETTER L WITH HIGH STROKE",
      "dCAPITAL LETTER O WITH LONG STROKE OVERLAYdSMALL LETTER O WITH LONG STROKE OVERLAY",
      "dCAPITAL LETTER O WITH LOOPdSMALL LETTER O WITH LOOPdCAPITAL LETTER OOdSMALL LETTER OO",
      "dCAPITAL LETTER P WITH STROKE THROUGH DESCENDER",
      "dSMALL LETTER P WITH STROKE THROUGH DESCENDERdCAPITAL LETTER P WITH FLOURISH",
      "dSMALL LETTER P WITH FLOURISHdCAPITAL LETTER P WITH SQUIRREL TAIL",
      "dSMALL LETTER P WITH SQUIRREL TAILdCAPITAL LETTER Q WITH STROKE THROUGH DESCENDER",
      "dSMALL LETTER Q WITH STROKE THROUGH DESCENDERdCAPITAL LETTER Q WITH DIAGONAL STROKE",
      "dSMALL LETTER Q WITH DIAGONAL STROKEdCAPITAL LETTER R ROTUNDAdSMALL LETTER R ROTUNDA",
      "dCAPITAL LETTER RUM ROTUNDAdSMALL LETTER RUM ROTUNDA",
      "dCAPITAL LETTER V WITH DIAGONAL STROKEdSMALL LETTER V WITH DIAGONAL STROKE",
      "dCAPITAL LETTER VYdSMALL LETTER VYdCAPITAL LETTER VISIGOTHIC ZdSMALL LETTER VISIGOTHIC Z",
      "dCAPITAL LETTER THORN WITH STROKEdSMALL LETTER THORN WITH STROKE",
      "dCAPITAL LETTER THORN WITH STROKE THROUGH DESCENDER",
      "dSMALL LETTER THORN WITH STROKE THROUGH DESCENDERdCAPITAL LETTER VENDdSMALL LETTER VEND",
      "dCAPITAL LETTER ETdSMALL LETTER ETdCAPITAL LETTER ISdSMALL LETTER ISdCAPITAL LETTER CON",
      "dSMALL LETTER CONaMODIFIER LETTER USaLATIN SMALL LETTER DUMj LUMj MUMj NUMj RUM",
      "dLETTER SMALL CAPITAL RUMdSMALL LETTER TUMj UMdCAPITAL LETTER INSULAR D",
      "dSMALL LETTER INSULAR DdCAPITAL LETTER INSULAR FdSMALL LETTER INSULAR F",
      "dCAPITAL LETTER INSULAR Gk TURNED INSULAR GdSMALL LETTER TURNED INSULAR G",
      "dCAPITAL LETTER TURNED LdSMALL LETTER TURNED LdCAPITAL LETTER INSULAR R",
      "dSMALL LETTER INSULAR RdCAPITAL LETTER INSULAR SdSMALL LETTER INSULAR S",
      "dCAPITAL LETTER INSULAR TdSMALL LETTER INSULAR TaMODIFIER LETTER LOW CIRCUMFLEX ACCENT",
      "iCOLONiSHORT EQUALS SIGNaLATIN CAPITAL LETTER SALTILLOdSMALL LETTER SALTILLO",
      "dCAPITAL LETTER TURNED HdSMALL LETTER L WITH RETROFLEX HOOK AND BELT",
      "dLETTER SINOLOGICAL DOTdCAPITAL LETTER N WITH DESCENDERdSMALL LETTER N WITH DESCENDER",
      "dCAPITAL LETTER C WITH BARdSMALL LETTER C WITH BARnPALATAL HOOKj H WITH PALATAL HOOK",
      "dCAPITAL LETTER B WITH FLOURISHdSMALL LETTER B WITH FLOURISH",
      "dCAPITAL LETTER F WITH STROKEdSMALL LETTER F WITH STROKEdCAPITAL LETTER VOLAPUK AE",
      "dSMALL LETTER VOLAPUK AEdCAPITAL LETTER VOLAPUK OEdSMALL LETTER VOLAPUK OE",
      "dCAPITAL LETTER VOLAPUK UEdSMALL LETTER VOLAPUK UEdCAPITAL LETTER G WITH OBLIQUE STROKE",
      "dSMALL LETTER G WITH OBLIQUE STROKEdCAPITAL LETTER K WITH OBLIQUE STROKE",
      "dSMALL LETTER K WITH OBLIQUE STROKEdCAPITAL LETTER N WITH OBLIQUE STROKE",
      "dSMALL LETTER N WITH OBLIQUE STROKEdCAPITAL LETTER R WITH OBLIQUE STROKE",
      "dSMALL LETTER R WITH OBLIQUE STROKEdCAPITAL LETTER S WITH OBLIQUE STROKE",
      "dSMALL LETTER S WITH OBLIQUE STROKEdCAPITAL LETTER H WITH HOOKk REVERSED OPEN E",
      "k SCRIPT Gk L WITH BELTk SMALL CAPITAL IdLETTER SMALL CAPITAL QdCAPITAL LETTER TURNED K",
      "oTk J WITH CROSSED-TAILk CHIk BETAdSMALL LETTER BETAdCAPITAL LETTER OMEGA",
      "dSMALL LETTER OMEGAdCAPITAL LETTER U WITH STROKEdSMALL LETTER U WITH STROKE",
      "dCAPITAL LETTER GLOTTAL AdSMALL LETTER GLOTTAL AdCAPITAL LETTER GLOTTAL I",
      "dSMALL LETTER GLOTTAL IdCAPITAL LETTER GLOTTAL UdSMALL LETTER GLOTTAL U",
      "dCAPITAL LETTER OLD POLISH OdSMALL LETTER OLD POLISH OdCAPITAL LETTER ANGLICANA W",
      "dSMALL LETTER ANGLICANA WdCAPITAL LETTER C WITH PALATAL HOOKk S WITH HOOK",
      "k Z WITH PALATAL HOOKk D WITH SHORT STROKE OVERLAY",
      "dSMALL LETTER D WITH SHORT STROKE OVERLAYdCAPITAL LETTER S WITH SHORT STROKE OVERLAY",
      "dSMALL LETTER S WITH SHORT STROKE OVERLAY"]),
   (0xA7D0, ["aLATIN CAPITAL LETTER CLOSED INSULAR GdSMALL LETTER CLOSED INSULAR G"]),
   (0xA7D3, ["aLATIN SMALL LETTER DOUBLE THORN"]),
   (0xA7D5,
     ["aLATIN SMALL LETTER DOUBLE WYNNdCAPITAL LETTER MIDDLE SCOTS S",
      "dSMALL LETTER MIDDLE SCOTS SdCAPITAL LETTER SIGMOID SdSMALL LETTER SIGMOID S"]),
   (0xA7F2,
     ["aMODIFIER LETTER CAPITAL CmFmQaLATIN CAPITAL LETTER REVERSED HALF H",
      "dSMALL LETTER REVERSED HALF HdEPIGRAPHIC LETTER SIDEWAYS I",
      "aMODIFIER LETTER CAPITAL H WITH STROKEiSMALL LIGATURE OE",
      "aLATIN LETTER SMALL CAPITAL TURNED MdEPIGRAPHIC LETTER REVERSED Fq PmINVERTED MmI LONGA",
      "mARCHAIC MaSYLOTI NAGRI LETTER AkIg SIGN DVISVARAg LETTER UkEkOg SIGN HASANTAg LETTER KO",
      "kKHOkGOkGHOg SIGN ANUSVARAg LETTER COkCHOkJOkJHOkTTOlHOkDDOlHOkTOkTHOkDOkDHOkNOkPOkPHO",
      "kBOkBHOkMOkROkLOkRROkSOkHOg VOWEL SIGN AmImUmEmOOg POETRY MARK-1m-2m-3m-4",
      "g SIGN ALTERNATE HASANTA"]),
   (0xA830,
     ["aNORTH INDIC FRACTION ONE QUARTERm HALFk THREE QUARTERSk ONE SIXTEENTHm EIGHTH",
      "k THREE SIXTEENTHSgQUARTER MARKgPLACEHOLDER MARKgRUPEE MARKgQUANTITY MARK"]),
   (0xA840,
     ["aPHAGS-PA LETTER KAiKHAiGAiNGAiCAiCHAiJAiNYAiTAiTHAiDAiNAiPAiPHAiBAiMAiTSAjHAiDZAiWAiZHA",
      "iZAiSMALL AiYAiRAiLAiSHAiSAiHAiAiIiUiEiOiQAiXAiFAiGGAiEEe SUBJOINED LETTER WAnYA",
      "e LETTER TTAjHAiDDAiNNAiALTERNATE YAiVOICELESS SHAkED HAiASPIRATED FA",
      "e SUBJOINED LETTER RAfUPERFIXED LETTER RAe LETTER CANDRABINDUe SINGLE HEAD MARK",
      "e DOUBLE HEAD MARKe MARK SHADhDOUBLE SHAD"]),
   (0xA880,
     ["aSAURASHTRA SIGN ANUSVARAiVISARGAf LETTER AjAAjIjIIjUjUUjVOCALIC RnRRnLnLLjEjEEjAIjOjOO",
      "jAUjKAjKHAjGAjGHAjNGAjCAjCHAjJAjJHAjNYAjTTAkHAjDDAkHAjNNAjTAjTHAjDAjDHAjNAjPAjPHAjBAjBHA",
      "jMAjYAjRAjLAjVAjSHAjSSAjSAjHAjLLAf CONSONANT SIGN HAARUf VOWEL SIGN AAlIlIIlUlUU",
      "lVOCALIC RpRRpLpLLlElEElAIlOlOOlAUf SIGN VIRAMAiCANDRABINDU"]),
   (0xA8CE,
     ["aSAURASHTRA DANDAgOUBLE DANDAgIGIT ZEROi ONEi TWOjHREEi FOURjIVEi SIXjEVENi EIGHTi NINE"]),
   (0xA8E0,
     ["aCOMBINING DEVANAGARI DIGIT ZEROn ONEn TWOoHREEn FOURoIVEn SIXoEVENn EIGHTn NINE",
      "k LETTER AoUoKAoNAoPAoRAoVIk SIGN AVAGRAHAaDEVANAGARI SIGN SPACING CANDRABINDU",
      "iCANDRABINDU VIRAMAiDOUBLE CANDRABINDU VIRAMAiCANDRABINDU TWOoTHREEoAVAGRAHAiPUSHPIKA",
      "f GAP FILLERf CARETf HEADSTROKEf SIGN SIDDHAMf JAIN OMf LETTER AYf VOWEL SIGN AY",
      "aKAYAH LI DIGIT ZEROh ONEh TWOiHREEh FOURiIVEh SIXiEVENh EIGHTh NINEe LETTER KAiKHAiGA",
      "iNGAiSAiSHAiZAiNYAiTAiHTAiNAiPAiPHAiMAiDAiBAiRAiYAiLAiWAiTHAiHAiVAiCAiAiOEiIiOO",
      "e VOWEL UEh Eh Uh EEh Oe TONE PLOPHUhCALYAjA PLOPHUe SIGN CWIhSHYAaREJANG LETTER KAhGA",
      "hNGAhTAhDAhNAhPAhBAhMAhCAhJAhNYAhSAhRAhLAhYAhWAhHAhMBAhNGGAhNDAhNYJAhAd VOWEL SIGN IjUjE",
      "jAIjOjAUjEUjEAd CONSONANT SIGN NGlNlRlHd VIRAMA"]),
   (0xA95F,
     ["aREJANG SECTION MARKaHANGUL CHOSEONG TIKEUT-MIEUMl-PIEUPl-SIOSl-CIEUCiRIEUL-KIYEOK",
      "lSSANGKIYEOKlTIKEUTlSSANGTIKEUTlMIEUMlPIEUPlSSANGPIEUPlKAPYEOUNPIEUPlSIOSlCIEUClKHIEUKH",
      "iMIEUM-KIYEOKlTIKEUTlSIOSiPIEUP-SIOS-THIEUTHlKHIEUKHlHIEUHiSSANGSIOS-PIEUPiIEUNG-RIEUL",
      "lHIEUHiSSANGCIEUC-HIEUHkGTHIEUTHiPHIEUPH-HIEUHiHIEUH-SIOSiSSANGYEORINHIEUH"]),
   (0xA980,
     ["aJAVANESE SIGN PANYANGGAhCECAKhLAYARhWIGNYANe LETTER AiI KAWIiIiIIiUiPA CEREKiNGA LELET",
      "mT RASWADIiEiAIiOiKAj SASAKj MURDAiGAj MURDAiNGAiCAj MURDAiJAiNYA MURDAiJA MAHAPRANAiNYA",
      "iTTAjA MAHAPRANAiDDAjA MAHAPRANAiNA MURDAiTAj MURDAiDAj MAHAPRANAiNAiPAj MURDAiBAj MURDA",
      "iMAiYAiRAj AGUNGiLAiWAiSA MURDAkAHAPRANAjiHAe SIGN CECAK TELUe VOWEL SIGN TARUNGkTOLONG",
      "kWULUm MELIKkSUKUm MENDUTkTALINGkDIRGA MUREkPEPETe CONSONANT SIGN KERETmPENGKALmCAKRA",
      "e PANGKONe LEFT RERENGGANe RIGHT RERENGGANe PADA ANDAPhMADYAhLUHURhWINDUhPANGKAThLINGSA",
      "hLUNGSIhADEGj ADEGhPISELEHe TURNED PADA PISELEH"]),
   (0xA9CF,
     ["aJAVANESE PANGRANGKEPe DIGIT ZEROh ONEh TWOiHREEh FOURiIVEh SIXiEVENh EIGHTh NINE"]),
   (0xA9DE,
     ["aJAVANESE PADA TIRTA TUMETEShISEN-ISENaMYANMAR LETTER SHAN GHAkCHAkJHAkNNAkBHA",
      "eSIGN SHAN SAWeMODIFIER LETTER SHAN REDUPLICATIONeLETTER TAI LAING NYAm FAm GAnHAm JAnHA",
      "m DDAnDHAm NNAeTAI LAING DIGIT ZEROmONEmTWOmTHREEmFOURmFIVEmSIXmSEVENmEIGHTmNINE",
      "eLETTER TAI LAING LLAm DAnHAm BAnHA"]),
   (0xAA00,
     ["aCHAM LETTER AgIgUgEgAIgOgKAgKHAgGAgGHAgNGUEhAgCHAhHAgJAgJHAgNHUEhAhJAgTAgTHAgDAgDHAgNUE",
      "gNAgDDAgPAgPPAgPHAgBAgBHAgMUEgMAgBBAgYAgRAgLAgVAgSSAgSAgHAc VOWEL SIGN AAiIiIIiEIiUiOEiO",
      "iAIiAUiUEc CONSONANT SIGN YAkRAkLAkWA"]),
   (0xAA40,
     ["aCHAM LETTER FINAL KjGjNGc CONSONANT SIGN FINAL NGc LETTER FINAL CHjTjNjPjYjRjLjSS",
      "c CONSONANT SIGN FINAL MnH"]),
   (0xAA50, ["aCHAM DIGIT ZEROf ONEf TWOgHREEf FOURgIVEf SIXgEVENf EIGHTf NINE"]),
   (0xAA5C,
     ["aCHAM PUNCTUATION SPIRALi DANDAjOUBLE DANDAi TRIPLE DANDAaMYANMAR LETTER KHAMTI GAlCA",
      "lCHAlJAlJHAlNYAlTTAmHAlDDAmHAlDHAlNAlSAlHAlHHAlFAeMODIFIER LETTER KHAMTI REDUPLICATION",
      "eLETTER KHAMTI XAlZAlRAeLOGOGRAM KHAMTI OAYmQNmHMeSYMBOL AITON EXCLAMATIONk ONEk TWO",
      "eLETTER AITON RAeSIGN PAO KAREN TONEg TAI LAING TONE-2o5eLETTER SHWE PALAUNG CHAoSHA",
      "aTAI VIET LETTER LOW KOiHIGH KOiLOW KHOiHIGH KHOiLOW KHHOiHIGH KHHOiLOW GOiHIGH GO",
      "iLOW NGOiHIGH NGOiLOW COiHIGH COiLOW CHOiHIGH CHOiLOW SOiHIGH SOiLOW NYOiHIGH NYOiLOW DO",
      "iHIGH DOiLOW TOiHIGH TOiLOW THOiHIGH THOiLOW NOiHIGH NOiLOW BOiHIGH BOiLOW POiHIGH PO",
      "iLOW PHOiHIGH PHOiLOW FOiHIGH FOiLOW MOiHIGH MOiLOW YOiHIGH YOiLOW ROiHIGH ROiLOW LO",
      "iHIGH LOiLOW VOiHIGH VOiLOW HOiHIGH HOiLOW OiHIGH Oe MAI KANGe VOWEL AAh Ih UEih Eh O",
      "e MAI KHITe VOWEL IAh UEAiAh AUEiYiNiMe TONE MAI EKjNUENGjTHOjSONG"]),
   (0xAADB,
     ["aTAI VIET SYMBOL KONiNUENGiSAMiHO HOIiKOI KOIaMEETEI MAYEK LETTER EkOkCHAkNYAkTTAlHAkDDA",
      "lHAkNNAkSHAkSSAg VOWEL SIGN IImUUmAAImAUmAAUg CHEIKHANg AHANG KHUDAMhNJI",
      "g SYLLABLE REPETITION MARKg WORD REPETITION MARKg VOWEL SIGN VISARGAhIRAMA"]),
   (0xAB01, ["aETHIOPIC SYLLABLE TTHUkHIkHAAkHEElkHO"]),
   (0xAB09, ["aETHIOPIC SYLLABLE DDHUkHIkHAAkHEElkHO"]),
   (0xAB11, ["aETHIOPIC SYLLABLE DZUkIkAAkEEkEkO"]),
   (0xAB20, ["aETHIOPIC SYLLABLE CCHHAlUlIlAAlEElElO"]),
   (0xAB28, ["aETHIOPIC SYLLABLE BBAkUkIkAAkEEkEkO"]),
   (0xAB30,
     ["aLATIN SMALL LETTER BARRED ALPHAj A REVERSED-SCHWAj BLACKLETTER EkARRED E",
      "j E WITH FLOURISHj LENIS Fj SCRIPT G WITH CROSSED-TAILj L WITH INVERTED LAZY S",
      "nDOUBLE MIDDLE TILDEnMIDDLE RINGj M WITH CROSSED-TAILj N WITH CROSSED-TAIL",
      "j ENG WITH CROSSED-TAILj BLACKLETTER Oq WITH STROKEj OPEN O WITH STROKEj INVERTED OE",
      "j TURNED OE WITH STROKErHORIZONTAL STROKEnO OPEN-Or WITH STROKEj STIRRUP R",
      "dLETTER SMALL CAPITAL R WITH RIGHT LEGdSMALL LETTER R WITHOUT HANDLEj DOUBLE R",
      "j R WITH CROSSED-TAILj DOUBLE R WITH CROSSED-TAILj SCRIPT RnR WITH RINGj BASELINE ESH",
      "j U WITH SHORT RIGHT LEGk BAR WITH SHORT RIGHT LEGkIj TURNED UIj U WITH LEFT HOOKj CHI",
      "l WITH LOW RIGHT RINGqLEFT SERIFj X WITH LOW RIGHT RINGoNG LEFT LEGtG AND LOW RIGHT RING",
      "uWITH SERIFj Y WITH SHORT RIGHT LEGaMODIFIER BREVE WITH INVERTED BREVE",
      "e LETTER SMALL HENGlL WITH INVERTED LAZY So MIDDLE TILDElU WITH LEFT HOOK",
      "aLATIN SMALL LETTER SAKHA YATj IOTIFIED Ej OPEN OEj UOj INVERTED ALPHA",
      "aGREEK LETTER SMALL CAPITAL OMEGAaLATIN SMALL LETTER DZ DIGRAPH WITH RETROFLEX HOOK",
      "j TS DIGRAPH WITH RETROFLEX HOOKkURNED R WITH MIDDLE TILDE",
      "aMODIFIER LETTER SMALL TURNED WiLEFT TACKiRIGHT TACK"]),
   (0xAB70,
     ["aCHEROKEE SMALL LETTER AlElIlOlUlVlGAlKAlGElGIlGOlGUlGVlHAlHElHIlHOlHUlHVlLAlLElLIlLOlLU",
      "lLVlMAlMElMIlMOlMUlNAlHNAlNAHlNElNIlNOlNUlNVlQUAmEmImOmUmVlSAlSlSElSIlSOlSUlSVlDAlTAlDE",
      "lTElDIlTIlDOlDUlDVlDLAlTLAmEmImOmUmVlTSAmEmImOmUmVlWAlWElWIlWOlWUlWVlYA",
      "aMEETEI MAYEK LETTER KOKkSAMkLAIkMITkPAkNAkCHILkTILkKHOUkNGOUkTHOUkWAIkYANGkHUKkUNkI",
      "kPHAMkATIYAkGOKkJHAMkRAIkBAkJILkDILkGHOUkDHOUkBHAMkKOK LONSUMkLAI LONSUMkMIT LONSUM",
      "kPA LONSUMkNA LONSUMkTIL LONSUMkNGOU LONSUMkI LONSUMg VOWEL SIGN ONAPmINAPmANAPmYENAP",
      "mSOUNAPmUNAPmCHEINAPmNUNGg CHEIKHEIg LUM IYEKg APUN IYEK"]),
   (0xABF0,
     ["aMEETEI MAYEK DIGIT ZEROj ONEj TWOkHREEj FOURkIVEj SIXkEVENj EIGHTj NINE"]),
   (0xD7B0,
     ["aHANGUL JUNGSEONG O-YEOj-O-Ii YO-AkAEkEOi U-YEOj-I-Ii YU-AEkOi EU-AkEOkEkOi I-YA-OkAEkEO",
      "kEj-O-Ij-YOkUj-Ii ARAEA-Al-E"]),
   (0xD7CB,
     ["aHANGUL JONGSEONG NIEUN-RIEULl-CHIEUCHi SSANGTIKEUTo-PIEUPi TIKEUT-PIEUPmSIOSo-KIYEOK",
      "mCIEUCmCHIEUCHmTHIEUTHi RIEUL-SSANGKIYEOKl-KIYEOK-HIEUHi SSANGRIEUL-KHIEUKH",
      "i RIEUL-MIEUM-HIEUHl-PIEUP-TIKEUTo-PHIEUPHl-YESIEUNGmEORINHIEUH-HIEUHi KAPYEOUNRIEUL",
      "i MIEUM-NIEUNl-SSANGNIEUNi SSANGMIEUMi MIEUM-PIEUP-SIOSl-CIEUCi PIEUP-TIKEUT",
      "l-RIEUL-PHIEUPHl-MIEUMi SSANGPIEUPi PIEUP-SIOS-TIKEUTl-CIEUCmHIEUCHi SIOS-MIEUM",
      "lKAPYEOUNPIEUPjSANGSIOS-KIYEOKn-TIKEUTjIOS-PANSIOSlCIEUClCHIEUCHlTHIEUTHlHIEUH",
      "i PANSIOS-PIEUPm-KAPYEOUNPIEUPi YESIEUNG-MIEUMnHIEUHi CIEUC-PIEUPl-SSANGPIEUP",
      "i SSANGCIEUCi PHIEUPH-SIOSm-THIEUTH"])]

end TreeQuote.CharacterName

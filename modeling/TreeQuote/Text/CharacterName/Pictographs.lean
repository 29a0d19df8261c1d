/-
TreeQuote/Text/CharacterName/Pictographs.lean

The names of pictographs, tags and selectors, in runs of code points with
names.  How a run is written is said where runs are read.
-/

namespace TreeQuote.CharacterName

/-- Runs of names of pictographs, tags and selectors. -/
def pictographs : List (Nat × List String) :=
  [(0x1F000,
     ["aMAHJONG TILE EAST WINDg SOUTH WINDg WEST WINDg NORTH WINDg RED DRAGONg GREEN DRAGON",
      "g WHITE DRAGONg ONE OF CHARACTERSg TWO OF CHARACTERShHREE OF CHARACTERS",
      "g FOUR OF CHARACTERShIVE OF CHARACTERSg SIX OF CHARACTERShEVEN OF CHARACTERS",
      "g EIGHT OF CHARACTERSg NINE OF CHARACTERSg ONE OF BAMBOOSg TWO OF BAMBOOS",
      "hHREE OF BAMBOOSg FOUR OF BAMBOOShIVE OF BAMBOOSg SIX OF BAMBOOShEVEN OF BAMBOOS",
      "g EIGHT OF BAMBOOSg NINE OF BAMBOOSg ONE OF CIRCLESg TWO OF CIRCLEShHREE OF CIRCLES",
      "g FOUR OF CIRCLEShIVE OF CIRCLESg SIX OF CIRCLEShEVEN OF CIRCLESg EIGHT OF CIRCLES",
      "g NINE OF CIRCLESg PLUMg ORCHIDg BAMBOOg CHRYSANTHEMUMg SPRINGhUMMERg AUTUMNg WINTER",
      "g JOKERg BACK"]),
   (0x1F030,
     ["aDOMINO TILE HORIZONTAL BACKl-00-00n01n02n03n04n05n06m1-00n01n02n03n04n05n06m2-00n01n02",
      "n03n04n05n06m3-00n01n02n03n04n05n06m4-00n01n02n03n04n05n06m5-00n01n02n03n04n05n06m6-00",
      "n01n02n03n04n05n06gVERTICAL BACKk-00-00m01m02m03m04m05m06l1-00m01m02m03m04m05m06l2-00m01",
      "m02m03m04m05m06l3-00m01m02m03m04m05m06l4-00m01m02m03m04m05m06l5-00m01m02m03m04m05m06",
      "l6-00m01m02m03m04m05m06"]),
   (0x1F0A0,
     ["aPLAYING CARD BACKg ACE OF SPADESg TWO OF SPADEShHREE OF SPADESg FOUR OF SPADES",
      "hIVE OF SPADESg SIX OF SPADEShEVEN OF SPADESg EIGHT OF SPADESg NINE OF SPADES",
      "g TEN OF SPADESg JACK OF SPADESg KNIGHT OF SPADESg QUEEN OF SPADESg KING OF SPADES"]),
   (0x1F0B1,
     ["aPLAYING CARD ACE OF HEARTSg TWO OF HEARTShHREE OF HEARTSg FOUR OF HEARTShIVE OF HEARTS",
      "g SIX OF HEARTShEVEN OF HEARTSg EIGHT OF HEARTSg NINE OF HEARTSg TEN OF HEARTS",
      "g JACK OF HEARTSg KNIGHT OF HEARTSg QUEEN OF HEARTSg KING OF HEARTSg RED JOKER"]),
   (0x1F0C1,
     ["aPLAYING CARD ACE OF DIAMONDSg TWO OF DIAMONDShHREE OF DIAMONDSg FOUR OF DIAMONDS",
      "hIVE OF DIAMONDSg SIX OF DIAMONDShEVEN OF DIAMONDSg EIGHT OF DIAMONDSg NINE OF DIAMONDS",
      "g TEN OF DIAMONDSg JACK OF DIAMONDSg KNIGHT OF DIAMONDSg QUEEN OF DIAMONDS",
      "g KING OF DIAMONDSg BLACK JOKER"]),
   (0x1F0D1,
     ["aPLAYING CARD ACE OF CLUBSg TWO OF CLUBShHREE OF CLUBSg FOUR OF CLUBShIVE OF CLUBS",
      "g SIX OF CLUBShEVEN OF CLUBSg EIGHT OF CLUBSg NINE OF CLUBSg TEN OF CLUBSg JACK OF CLUBS",
      "g KNIGHT OF CLUBSg QUEEN OF CLUBSg KING OF CLUBSg WHITE JOKERg FOOLg TRUMP-1j-2j-3j-4j-5",
      "j-6j-7j-8j-9j-10k1k2k3k4k5k6k7k8k9j-20k1"]),
   (0x1F100,
     ["aDIGIT ZERO FULL STOPf COMMAdONE COMMAdTWO COMMAdTHREE COMMAdFOUR COMMAdFIVE COMMA",
      "dSIX COMMAdSEVEN COMMAdEIGHT COMMAdNINE COMMAbNGBAT CIRCLED SANS-SERIF DIGIT ZERO",
      "eNEGATIVE CIRCLED SANS-SERIF DIGIT ZEROaCIRCLED ZERO WITH SLASHeANTICLOCKWISE ARROW",
      "eDOLLAR SIGN WITH OVERLAID BACKSLASHaPARENTHESIZED LATIN CAPITAL LETTER Ar Br Cr Dr Er F",
      "r Gr Hr Ir Jr Kr Lr Mr Nr Or Pr Qr Rr Sr Tr Ur Vr Wr Xr Yr Z",
      "aTORTOISE SHELL BRACKETED LATIN CAPITAL LETTER SaCIRCLED ITALIC LATIN CAPITAL LETTER CsR",
      "eCDeWZaCOPYLEFT SYMBOLaSQUARED LATIN CAPITAL LETTER Ao Bo Co Do Eo Fo Go Ho Io Jo Ko L",
      "o Mo No Oo Po Qo Ro So To Uo Vo Wo Xo Yo ZeHVeMVeSDeSSePPVeWC",
      "aNEGATIVE CIRCLED LATIN CAPITAL LETTER AtBtCtDtEtFtGtHtItJtKtLtMtNtOtPtQtRtStTtUtVtWtXtY",
      "tZaRAISED MC SIGNeD SIGNeR SIGNaCIRCLED CCeC WITH OVERLAID BACKSLASHeHUMAN FIGURE",
      "aNEGATIVE SQUARED LATIN CAPITAL LETTER AtBtCtDtEtFtGtHtItJtKtLtMtNtOtPtQtRtStTtUtVtWtXtY",
      "tZaCROSSED NEGATIVE SQUARED LATIN CAPITAL LETTER PaNEGATIVE SQUARED ICi PAi SAi ABi WC",
      "aSQUARE DJdD CLeCOOLeFREEeIDeNEWeNGeOKeSOSeUP WITH EXCLAMATION MARKeVSeTHREE D",
      "eSECOND SCREENeTWO KeFOUR KeEIGHT KeFIVE POINT ONEeSEVEN POINT ONEeTWENTY-TWO POINT TWO",
      "eSIXTY PeONE HUNDRED TWENTY PeLATIN SMALL LETTER DeHCeHDReHI-RESeLOSSLESSeSHVeUHDeVOD",
      "aMASK WORK SYMBOL"]),
   (0x1F1E6,
     ["aREGIONAL INDICATOR SYMBOL LETTER Aq Bq Cq Dq Eq Fq Gq Hq Iq Jq Kq Lq Mq Nq Oq Pq Qq R",
      "q Sq Tq Uq Vq Wq Xq Yq ZaSQUARE HIRAGANA HOKAdD KATAKANA KOKOi SA"]),
   (0x1F210,
     ["aSQUARED CJK UNIFIED IDEOGRAPH-624Bp5B57p53CCeKATAKANA DEeCJK UNIFIED IDEOGRAPH-4E8C",
      "p591Ap89E3p5929p4EA4p6620p7121p6599p524Dp5F8Cp518Dp65B0p521Dp7D42p751Fp8CA9p58F0p5439",
      "p6F14p6295p6355p4E00q09p904Ap5DE6p4E2Dp53F3p6307p8D70p6253p7981p7A7Ap5408p6E80p6709q08",
      "p7533p5272p55B6p914D"]),
   (0x1F240,
     ["aTORTOISE SHELL BRACKETED CJK UNIFIED IDEOGRAPH-672Cx-4E09yE8Cx-5B89x-70B9x-6253x-76D7",
      "x-52DDx-6557"]),
   (0x1F250, ["aCIRCLED IDEOGRAPH ADVANTAGEjACCEPT"]),
   (0x1F260, ["aROUNDED SYMBOL FOR FUj LUj SHOUj XIj SHUANGXIj CAI"]),
   (0x1F300,
     ["aCYCLONEaFOGGYaCLOSED UMBRELLAaNIGHT WITH STARSaSUNRISE OVER MOUNTAINSdE",
      "aCITYSCAPE AT DUSKaSUNSET OVER BUILDINGSaRAINBOWaBRIDGE AT NIGHTaWATER WAVEaVOLCANO",
      "aMILKY WAYaEARTH GLOBE EUROPE-AFRICAgAMERICASgASIA-AUSTRALIAaGLOBE WITH MERIDIANS",
      "aNEW MOON SYMBOLaWAXING CRESCENT MOON SYMBOLaFIRST QUARTER MOON SYMBOL",
      "aWAXING GIBBOUS MOON SYMBOLaFULL MOON SYMBOLaWANING GIBBOUS MOON SYMBOL",
      "aLAST QUARTER MOON SYMBOLaWANING CRESCENT MOON SYMBOLaCRESCENT MOONaNEW MOON WITH FACE",
      "aFIRST QUARTER MOON WITH FACEaLAST QUARTER MOON WITH FACEaFULL MOON WITH FACE",
      "aSUN WITH FACEaGLOWING STARaSHOOTING STARaTHERMOMETERaBLACK DROPLETaWHITE SUN",
      "eN WITH SMALL CLOUDfBEHIND CLOUDl WITH RAINaCLOUD WITH RAINf SNOWf LIGHTNINGf TORNADO",
      "aFOGaWIND BLOWING FACEaHOT DOGaTACOaBURRITOaCHESTNUTaSEEDLINGaEVERGREEN TREE",
      "aDECIDUOUS TREEaPALM TREEaCACTUSaHOT PEPPERaTULIPaCHERRY BLOSSOMaROSEaHIBISCUSaSUNFLOWER",
      "aBLOSSOMaEAR OF MAIZEd RICEaHERBaFOUR LEAF CLOVERaMAPLE LEAFaFALLEN LEAF",
      "aLEAF FLUTTERING IN WINDaMUSHROOMaTOMATOaAUBERGINEaGRAPESaMELONaWATERMELONaTANGERINE",
      "aLEMONaBANANAaPINEAPPLEaRED APPLEaGREEN APPLEaPEARbACHaCHERRIESaSTRAWBERRYaHAMBURGER",
      "aSLICE OF PIZZAaMEAT ON BONEaPOULTRY LEGaRICE CRACKERc BALLaCOOKED RICEaCURRY AND RICE",
      "aSTEAMING BOWLaSPAGHETTIaBREADaFRENCH FRIESaROASTED SWEET POTATOaDANGOaODENaSUSHI",
      "aFRIED SHRIMPaFISH CAKE WITH SWIRL DESIGNaSOFT ICE CREAMaSHAVED ICEaICE CREAMaDOUGHNUT",
      "aCOOKIEaCHOCOLATE BARaCANDYaLOLLIPOPaCUSTARDaHONEY POTaSHORTCAKEaBENTO BOXaPOT OF FOOD",
      "aCOOKINGaFORK AND KNIFEaTEACUP WITHOUT HANDLEaSAKE BOTTLE AND CUPaWINE GLASS",
      "aCOCKTAIL GLASSaTROPICAL DRINKaBEER MUGaCLINKING BEER MUGSaBABY BOTTLE",
      "aFORK AND KNIFE WITH PLATEaBOTTLE WITH POPPING CORKaPOPCORNaRIBBONaWRAPPED PRESENT",
      "aBIRTHDAY CAKEaJACK-O-LANTERNaCHRISTMAS TREEaFATHER CHRISTMASaFIREWORKSe SPARKLER",
      "aBALLOONaPARTY POPPERaCONFETTI BALLaTANABATA TREEaCROSSED FLAGSaPINE DECORATION",
      "aJAPANESE DOLLSaCARP STREAMERaWIND CHIMEaMOON VIEWING CEREMONYaSCHOOL SATCHEL",
      "aGRADUATION CAPaHEART WITH TIP ON THE LEFTaBOUQUET OF FLOWERSaMILITARY MEDAL",
      "aREMINDER RIBBONaMUSICAL KEYBOARD WITH JACKSaSTUDIO MICROPHONEaLEVEL SLIDER",
      "aCONTROL KNOBSaBEAMED ASCENDING MUSICAL NOTESd DESCENDING MUSICAL NOTESaFILM FRAMES",
      "aADMISSION TICKETSaCAROUSEL HORSEaFERRIS WHEELaROLLER COASTERaFISHING POLE AND FISH",
      "aMICROPHONEaMOVIE CAMERAaCINEMAaHEADPHONEaARTIST PALETTEaTOP HATaCIRCUS TENTaTICKET",
      "aCLAPPER BOARDaPERFORMING ARTSaVIDEO GAMEaDIRECT HITaSLOT MACHINEaBILLIARDSaGAME DIE",
      "aBOWLINGaFLOWER PLAYING CARDSaMUSICAL NOTEbLTIPLE MUSICAL NOTESaSAXOPHONEaGUITAR",
      "aMUSICAL KEYBOARDaTRUMPETaVIOLINaMUSICAL SCOREaRUNNING SHIRT WITH SASH",
      "aTENNIS RACQUET AND BALLaSKI AND SKI BOOTaBASKETBALL AND HOOPaCHEQUERED FLAGaSNOWBOARDER",
      "aRUNNERaSURFERaSPORTS MEDALaTROPHYaHORSE RACINGaAMERICAN FOOTBALLaRUGBY FOOTBALLaSWIMMER",
      "aWEIGHT LIFTERaGOLFERaRACING MOTORCYCLEd CARaCRICKET BAT AND BALLaVOLLEYBALL",
      "aFIELD HOCKEY STICK AND BALLaICE HOCKEY STICK AND PUCKaTABLE TENNIS PADDLE AND BALL",
      "aSNOW CAPPED MOUNTAINaCAMPINGaBEACH WITH UMBRELLAaBUILDING CONSTRUCTIONaHOUSE BUILDINGS",
      "aCITYSCAPEaDERELICT HOUSE BUILDINGaCLASSICAL BUILDINGaDESERTd ISLANDaNATIONAL PARK",
      "aSTADIUMaHOUSE BUILDINGdWITH GARDENaOFFICE BUILDINGaJAPANESE POST OFFICE",
      "aEUROPEAN POST OFFICEaHOSPITALaBANKaAUTOMATED TELLER MACHINEaHOTELaLOVE HOTEL",
      "aCONVENIENCE STOREaSCHOOLaDEPARTMENT STOREaFACTORYaIZAKAYA LANTERNaJAPANESE CASTLE",
      "aEUROPEAN CASTLEaWHITE PENNANTaBLACK PENNANTaWAVING WHITE FLAGd BLACK FLAGaROSETTE",
      "aBLACK ROSETTEaLABELaBADMINTON RACQUET AND SHUTTLECOCKaBOW AND ARROWaAMPHORA",
      "aEMOJI MODIFIER FITZPATRICK TYPE-1-2q3q4q5q6aRATaMOUSEaOXaWATER BUFFALOaCOWaTIGER",
      "aLEOPARDaRABBITaCATaDRAGONaCROCODILEaWHALEaSNAILbAKEaHORSEaRAMaGOATaSHEEPaMONKEYaROOSTER",
      "aCHICKENaDOGaPIGaBOARaELEPHANTaOCTOPUSaSPIRAL SHELLaBUGaANTaHONEYBEEaLADY BEETLEaFISH",
      "aTROPICAL FISHaBLOWFISHaTURTLEaHATCHING CHICKaBABY CHICKaFRONT-FACING BABY CHICKaBIRD",
      "aPENGUINaKOALAaPOODLEaDROMEDARY CAMELaBACTRIAN CAMELaDOLPHINaMOUSE FACEaCOW FACE",
      "aTIGER FACEaRABBIT FACEaCAT FACEaDRAGON FACEaSPOUTING WHALEaHORSE FACEaMONKEY FACE",
      "aDOG FACEaPIG FACEaFROG FACEaHAMSTER FACEaWOLF FACEaBEAR FACEaPANDA FACEaPIG NOSE",
      "aPAW PRINTSaCHIPMUNKaEYESbEaEARaNOSEaMOUTHaTONGUEaWHITE UP POINTING BACKHAND INDEX",
      "dDOWN POINTING BACKHAND INDEXdLEFT POINTING BACKHAND INDEXdRIGHT POINTING BACKHAND INDEX",
      "aFISTED HAND SIGNaWAVING HAND SIGNaOK HAND SIGNaTHUMBS UP SIGNd DOWN SIGN",
      "aCLAPPING HANDS SIGNaOPEN HANDS SIGNaCROWNaWOMANS HATaEYEGLASSESaNECKTIEaT-SHIRTaJEANS",
      "aDRESSaKIMONOaBIKINIaWOMANS CLOTHESaPURSEaHANDBAGaPOUCHaMANS SHOEaATHLETIC SHOE",
      "aHIGH-HEELED SHOEaWOMANS SANDALd BOOTSaFOOTPRINTSaBUST IN SILHOUETTEcS IN SILHOUETTEaBOY",
      "aGIRLaMANaWOMANaFAMILYaMAN AND WOMAN HOLDING HANDSaTWO MEN HOLDING HANDS",
      "cWOMEN HOLDING HANDSaPOLICE OFFICERaWOMAN WITH BUNNY EARSaBRIDE WITH VEIL",
      "aPERSON WITH BLOND HAIRaMAN WITH GUA PI MAOe TURBANaOLDER MANdWOMANaBABY",
      "aCONSTRUCTION WORKERaPRINCESSaJAPANESE OGREe GOBLINaGHOSTaBABY ANGEL",
      "aEXTRATERRESTRIAL ALIENaALIEN MONSTERaIMPaSKULLaINFORMATION DESK PERSONaGUARDSMANaDANCER",
      "aLIPSTICKaNAIL POLISHaFACE MASSAGEaHAIRCUTaBARBER POLEaSYRINGEaPILLaKISS MARK",
      "aLOVE LETTERaRINGaGEM STONEaKISSaBOUQUETaCOUPLE WITH HEARTaWEDDINGaBEATING HEART",
      "aBROKEN HEARTaTWO HEARTSaSPARKLING HEARTaGROWING HEARTaHEART WITH ARROWaBLUE HEART",
      "aGREEN HEARTaYELLOW HEARTaPURPLE HEARTaHEART WITH RIBBONaREVOLVING HEARTS",
      "aHEART DECORATIONaDIAMOND SHAPE WITH A DOT INSIDEaELECTRIC LIGHT BULBaANGER SYMBOLaBOMB",
      "aSLEEPING SYMBOLaCOLLISION SYMBOLaSPLASHING SWEAT SYMBOLaDROPLETaDASH SYMBOLaPILE OF POO",
      "aFLEXED BICEPSaDIZZY SYMBOLaSPEECH BALLOONaTHOUGHT BALLOONaWHITE FLOWER",
      "aHUNDRED POINTS SYMBOLaMONEY BAGaCURRENCY EXCHANGEaHEAVY DOLLAR SIGNaCREDIT CARD",
      "aBANKNOTE WITH YEN SIGNhDOLLAR SIGNhEURO SIGNhPOUND SIGNaMONEY WITH WINGS",
      "aCHART WITH UPWARDS TREND AND YEN SIGNaSEATaPERSONAL COMPUTERaBRIEFCASEaMINIDISC",
      "aFLOPPY DISKaOPTICAL DISCaDVDaFILE FOLDERaOPEN FILE FOLDERaPAGE WITH CURLc FACING UP",
      "aCALENDARaTEAR-OFF CALENDARaCARD INDEXaCHART WITH UPWARDS TRENDf DOWNWARDS TREND",
      "aBAR CHARTaCLIPBOARDaPUSHPINaROUND PUSHPINaPAPERCLIPaSTRAIGHT RULERaTRIANGULAR RULER",
      "aBOOKMARK TABSaLEDGERaNOTEBOOKe WITH DECORATIVE COVERaCLOSED BOOKaOPEN BOOKaGREEN BOOK",
      "aBLUE BOOKaORANGE BOOKaBOOKSaNAME BADGEaSCROLLaMEMOaTELEPHONE RECEIVERaPAGERaFAX MACHINE",
      "aSATELLITE ANTENNAaPUBLIC ADDRESS LOUDSPEAKERaCHEERING MEGAPHONEaOUTBOX TRAYaINBOX TRAY",
      "aPACKAGEaE-MAIL SYMBOLaINCOMING ENVELOPEaENVELOPE WITH DOWNWARDS ARROW ABOVE",
      "aCLOSED MAILBOX WITH LOWERED FLAGkRAISED FLAGaOPEN MAILBOX WITH RAISED FLAGjLOWERED FLAG",
      "aPOSTBOXcAL HORNaNEWSPAPERaMOBILE PHONEg WITH RIGHTWARDS ARROW AT LEFTaVIBRATION MODE",
      "aMOBILE PHONE OFFaNO MOBILE PHONESaANTENNA WITH BARSaCAMERAd WITH FLASHaVIDEO CAMERA",
      "aTELEVISIONaRADIOaVIDEOCASSETTEaFILM PROJECTORaPORTABLE STEREOaPRAYER BEADS",
      "aTWISTED RIGHTWARDS ARROWSaCLOCKWISE RIGHTWARDS AND LEFTWARDS OPEN CIRCLE ARROWS",
      "zOWS WITH CIRCLED ONE OVERLAYfDOWNWARDS AND UPWARDS OPEN CIRCLE ARROWS",
      "aANTICLOCKWISE DOWNWARDS AND UPWARDS OPEN CIRCLE ARROWSaLOW BRIGHTNESS SYMBOL",
      "aHIGH BRIGHTNESS SYMBOLaSPEAKER WITH CANCELLATION STROKEdRdR WITH ONE SOUND WAVE",
      "g THREE SOUND WAVESaBATTERYaELECTRIC PLUGaLEFT-POINTING MAGNIFYING GLASS",
      "aRIGHT-POINTING MAGNIFYING GLASSaLOCK WITH INK PENaCLOSED LOCK WITH KEYaKEYaLOCK",
      "aOPEN LOCKaBELLc WITH CANCELLATION STROKEaBOOKMARKaLINK SYMBOLaRADIO BUTTON",
      "aBACK WITH LEFTWARDS ARROW ABOVEaEND WITH LEFTWARDS ARROW ABOVE",
      "aON WITH EXCLAMATION MARK WITH LEFT RIGHT ARROW ABOVEaSOON WITH RIGHTWARDS ARROW ABOVE",
      "aTOP WITH UPWARDS ARROW ABOVEaNO ONE UNDER EIGHTEEN SYMBOLaKEYCAP TEN",
      "aINPUT SYMBOL FOR LATIN CAPITAL LETTERSl SMALL LETTERSi NUMBERSi SYMBOLSi LATIN LETTERS",
      "aFIREaELECTRIC TORCHaWRENCHaHAMMERaNUT AND BOLTaHOCHOaPISTOLaMICROSCOPEaTELESCOPE",
      "aCRYSTAL BALLaSIX POINTED STAR WITH MIDDLE DOTaJAPANESE SYMBOL FOR BEGINNER",
      "aTRIDENT EMBLEMaBLACK SQUARE BUTTONaWHITE SQUARE BUTTONaLARGE RED CIRCLEdBLUE CIRCLE",
      "dORANGE DIAMONDdBLUE DIAMONDaSMALL ORANGE DIAMONDdBLUE DIAMONDaUP-POINTING RED TRIANGLE",
      "aDOWN-POINTING RED TRIANGLEaUP-POINTING SMALL RED TRIANGLE",
      "aDOWN-POINTING SMALL RED TRIANGLEaLOWER RIGHT SHADOWED WHITE CIRCLE",
      "aUPPER RIGHT SHADOWED WHITE CIRCLEaCIRCLED CROSS POMMEE",
      "aCROSS POMMEE WITH HALF-CIRCLE BELOWgaNOTCHED LEFT SEMICIRCLE WITH THREE DOTS",
      "eRIGHT SEMICIRCLE WITH THREE DOTSaSYMBOL FOR MARKS CHAPTERaWHITE LATIN CROSS",
      "aHEAVY LATIN CROSSaCELTIC CROSSaOM SYMBOLaDOVE OF PEACEaKAABAaMOSQUEaSYNAGOGUE",
      "aMENORAH WITH NINE BRANCHESaBOWL OF HYGIEIAaCLOCK FACE ONE OCLOCKf TWO OCLOCK",
      "gHREE OCLOCKf FOUR OCLOCKgIVE OCLOCKf SIX OCLOCKgEVEN OCLOCKf EIGHT OCLOCKf NINE OCLOCK",
      "f TEN OCLOCKf ELEVEN OCLOCKf TWELVE OCLOCKf ONE-THIRTYf TWO-THIRTYgHREE-THIRTY",
      "f FOUR-THIRTYgIVE-THIRTYf SIX-THIRTYgEVEN-THIRTYf EIGHT-THIRTYf NINE-THIRTYf TEN-THIRTY",
      "f ELEVEN-THIRTYf TWELVE-THIRTYaRIGHT SPEAKERgR WITH ONE SOUND WAVEj THREE SOUND WAVES",
      "aBULLHORNe WITH SOUND WAVESaRINGING BELLaBOOKaCANDLEaMANTELPIECE CLOCK",
      "aBLACK SKULL AND CROSSBONESaNO PIRACYaHOLEaMAN IN BUSINESS SUIT LEVITATINGaSLEUTH OR SPY",
      "aDARK SUNGLASSESaSPIDERd WEBaJOYSTICKaMAN DANCINGaLEFT HAND TELEPHONE RECEIVER",
      "aTELEPHONE RECEIVER WITH PAGEaRIGHT HAND TELEPHONE RECEIVERaWHITE TOUCHTONE TELEPHONE",
      "aBLACK TOUCHTONE TELEPHONEaTELEPHONE ON TOP OF MODEMaCLAMSHELL MOBILE PHONE",
      "aBACK OF ENVELOPEaSTAMPED ENVELOPEaENVELOPE WITH LIGHTNINGaFLYING ENVELOPE",
      "aPEN OVER STAMPED ENVELOPEaLINKED PAPERCLIPSaBLACK PUSHPINaLOWER LEFT PENCIL",
      "f BALLPOINT PENf FOUNTAIN PENf PAINTBRUSHf CRAYONaLEFT WRITING HANDaTURNED OK HAND SIGN",
      "aRAISED HAND WITH FINGERS SPLAYEDaREVERSED RAISED HAND WITH FINGERS SPLAYED",
      "e THUMBS UP SIGNiDOWN SIGNe VICTORY HANDe HAND WITH MIDDLE FINGER EXTENDED",
      "aRAISED HAND WITH PART BETWEEN MIDDLE AND RING FINGERS",
      "aWHITE DOWN POINTING LEFT HAND INDEXaSIDEWAYS WHITE LEFT POINTING INDEX",
      "h RIGHT POINTING INDEXe BLACK LEFT POINTING INDEXh RIGHT POINTING INDEX",
      "aBLACK LEFT POINTING BACKHAND INDEXdRIGHT POINTING BACKHAND INDEX",
      "aSIDEWAYS WHITE UP POINTING INDEXh DOWN POINTING INDEXe BLACK UP POINTING INDEX",
      "h DOWN POINTING INDEXaBLACK UP POINTING BACKHAND INDEXdDOWN POINTING BACKHAND INDEX",
      "dHEARTaDESKTOP COMPUTERaKEYBOARD AND MOUSEaTHREE NETWORKED COMPUTERSaPRINTER",
      "aPOCKET CALCULATORaBLACK HARD SHELL FLOPPY DISKaWHITE HARD SHELL FLOPPY DISK",
      "aSOFT SHELL FLOPPY DISKaTAPE CARTRIDGEaWIRED KEYBOARDaONE BUTTON MOUSEaTWO BUTTON MOUSE",
      "aTHREE BUTTON MOUSEaTRACKBALLaOLD PERSONAL COMPUTERaHARD DISKaSCREENaPRINTER ICON",
      "aFAX ICONaOPTICAL DISC ICONaDOCUMENT WITH TEXTj AND PICTUREhPICTUREaFRAME WITH PICTURE",
      "f TILESf AN XaBLACK FOLDERaFOLDERaOPEN FOLDERaCARD INDEX DIVIDERSc FILE BOXaFILE CABINET",
      "aEMPTY NOTEf PAGEgADaNOTEc PAGEdADaEMPTY DOCUMENTdPAGEfSaDOCUMENTaPAGEcSaWASTEBASKET",
      "aSPIRAL NOTE PADd CALENDAR PADaDESKTOP WINDOWaMINIMIZEaMAXIMIZEaOVERLAP",
      "aCLOCKWISE RIGHT AND LEFT SEMICIRCLE ARROWSaCANCELLATION XaINCREASE FONT SIZE SYMBOL",
      "aDECREASE FONT SIZE SYMBOLaCOMPRESSIONaOLD KEYaROLLED-UP NEWSPAPER",
      "aPAGE WITH CIRCLED TEXTaSTOCK CHARTaDAGGER KNIFEaLIPSaSPEAKING HEAD IN SILHOUETTE",
      "aTHREE RAYS ABOVEf BELOWf LEFTf RIGHTaLEFT SPEECH BUBBLEaRIGHT SPEECH BUBBLE",
      "aTWO SPEECH BUBBLESaTHREE SPEECH BUBBLESaLEFT THOUGHT BUBBLEaRIGHT THOUGHT BUBBLE",
      "aLEFT ANGER BUBBLEaRIGHT ANGER BUBBLEaMOOD BUBBLEaLIGHTNING MOOD BUBBLEh",
      "aBALLOT BOX WITH BALLOTd SCRIPT Xd BOX WITH SCRIPT XeOLD SCRIPT XeOX WITH BOLD SCRIPT X",
      "aLIGHT CHECK MARKaBALLOT BOX WITH BOLD CHECKaWORLD MAPaMOUNT FUJIaTOKYO TOWER",
      "aSTATUE OF LIBERTYaSILHOUETTE OF JAPANaMOYAIaGRINNING FACEgE WITH SMILING EYES",
      "aFACE WITH TEARS OF JOYaSMILING FACE WITH OPEN MOUTHo AND SMILING EYESq COLD SWEAT",
      "q TIGHTLY-CLOSED EYESjHALOjHORNSaWINKING FACEaSMILING FACE WITH SMILING EYES",
      "aFACE SAVOURING DELICIOUS FOODaRELIEVED FACEaSMILING FACE WITH HEART-SHAPED EYES",
      "jSUNGLASSESbIRKING FACEaNEUTRAL FACEaEXPRESSIONLESS FACEaUNAMUSED FACE",
      "aFACE WITH COLD SWEATaPENSIVE FACEaCONFUSED FACEcOUNDED FACEaKISSING FACE",
      "aFACE THROWING A KISSaKISSING FACE WITH SMILING EYESjCLOSED EYES",
      "aFACE WITH STUCK-OUT TONGUEn AND WINKING EYEp TIGHTLY-CLOSED EYESaDISAPPOINTED FACE",
      "aWORRIED FACEaANGRY FACEaPOUTING FACEaCRYING FACEaPERSEVERING FACE",
      "aFACE WITH LOOK OF TRIUMPHaDISAPPOINTED BUT RELIEVED FACEaFROWNING FACE WITH OPEN MOUTH",
      "aANGUISHED FACEaFEARFUL FACEaWEARY FACEaSLEEPY FACEaTIRED FACEaGRIMACING FACE",
      "aLOUDLY CRYING FACEaFACE WITH OPEN MOUTHaHUSHED FACEaFACE WITH OPEN MOUTH AND COLD SWEAT",
      "c SCREAMING IN FEARaASTONISHED FACEaFLUSHED FACEaSLEEPING FACEaDIZZY FACE",
      "aFACE WITHOUT MOUTHeH MEDICAL MASKaGRINNING CAT FACE WITH SMILING EYES",
      "aCAT FACE WITH TEARS OF JOYaSMILING CAT FACE WITH OPEN MOUTHlHEART-SHAPED EYES",
      "aCAT FACE WITH WRY SMILEaKISSING CAT FACE WITH CLOSED EYESaPOUTING CAT FACE",
      "aCRYING CAT FACEaWEARY CAT FACEaSLIGHTLY FROWNING FACEe SMILING FACEaUPSIDE-DOWN FACE",
      "aFACE WITH ROLLING EYESfNO GOOD GESTUREfOK GESTUREaPERSON BOWING DEEPLY",
      "aSEE-NO-EVIL MONKEYaHEAR-NO-EVIL MONKEYaSPEAK-NO-EVIL MONKEY",
      "aHAPPY PERSON RAISING ONE HANDaPERSON RAISING BOTH HANDS IN CELEBRATIONd FROWNING",
      "d WITH POUTING FACEgFOLDED HANDSaNORTH WEST POINTING LEAFaSOUTH WEST POINTING LEAF",
      "aNORTH EAST POINTING LEAFaSOUTH EAST POINTING LEAFaTURNED NORTH WEST POINTING LEAF",
      "d SOUTH WEST POINTING LEAFd NORTH EAST POINTING LEAFd SOUTH EAST POINTING LEAF",
      "aNORTH WEST POINTING VINE LEAFaSOUTH WEST POINTING VINE LEAF",
      "aNORTH EAST POINTING VINE LEAFaSOUTH EAST POINTING VINE LEAF",
      "aHEAVY NORTH WEST POINTING VINE LEAFdSOUTH WEST POINTING VINE LEAF",
      "dNORTH EAST POINTING VINE LEAFdSOUTH EAST POINTING VINE LEAFaNORTH WEST POINTING BUD",
      "aSOUTH WEST POINTING BUDaNORTH EAST POINTING BUDaSOUTH EAST POINTING BUD",
      "aHEAVY NORTH WEST POINTING BUDdSOUTH WEST POINTING BUDdNORTH EAST POINTING BUD",
      "dSOUTH EAST POINTING BUDaHOLLOW QUILT SQUARE ORNAMENTo IN BLACK SQUARE",
      "aSOLID QUILT SQUARE ORNAMENTnT IN BLACK SQUAREaLEFTWARDS ROCKETaUPWARDS ROCKET",
      "aRIGHTWARDS ROCKETaDOWNWARDS ROCKETaSCRIPT LIGATURE ET ORNAMENT",
      "aHEAVY SCRIPT LIGATURE ET ORNAMENTaLIGATURE OPEN ET ORNAMENT",
      "aHEAVY LIGATURE OPEN ET ORNAMENTdAMPERSAND ORNAMENTaSWASH AMPERSAND ORNAMENT",
      "aSANS-SERIF HEAVY DOUBLE TURNED COMMA QUOTATION MARK ORNAMENT",
      "mCOMMA QUOTATION MARK ORNAMENTi LOW DOUBLE COMMA QUOTATION MARK ORNAMENT",
      "aHEAVY INTERROBANG ORNAMENTaSANS-SERIF INTERROBANG ORNAMENT",
      "aHEAVY SANS-SERIF INTERROBANG ORNAMENTaVERY HEAVY SOLIDUSf REVERSE SOLIDUSaCHECKER BOARD",
      "aREVERSE CHECKER BOARDaROCKETaHELICOPTERaSTEAM LOCOMOTIVEaRAILWAY CARaHIGH-SPEED TRAIN",
      "i WITH BULLET NOSEaTRAINaMETROaLIGHT RAILaSTATIONaTRAMc CARaBUSaONCOMING BUSaTROLLEYBUS",
      "aBUS STOPaMINIBUSaAMBULANCEaFIRE ENGINEaPOLICE CARaONCOMING POLICE CARaTAXI",
      "aONCOMING TAXIaAUTOMOBILEaONCOMING AUTOMOBILEaRECREATIONAL VEHICLEaDELIVERY TRUCK",
      "aARTICULATED LORRYaTRACTORaMONORAILbUNTAIN RAILWAYaSUSPENSION RAILWAYaMOUNTAIN CABLEWAY",
      "aAERIAL TRAMWAYaSHIPaROWBOATaSPEEDBOATaHORIZONTAL TRAFFIC LIGHTaVERTICAL TRAFFIC LIGHT",
      "aCONSTRUCTION SIGNaPOLICE CARS REVOLVING LIGHTaTRIANGULAR FLAG ON POSTaDOOR",
      "aNO ENTRY SIGNaSMOKING SYMBOLaNO SMOKING SYMBOLaPUT LITTER IN ITS PLACE SYMBOL",
      "aDO NOT LITTER SYMBOLaPOTABLE WATER SYMBOLaNON-POTABLE WATER SYMBOLaBICYCLEaNO BICYCLES",
      "aBICYCLISTaMOUNTAIN BICYCLISTaPEDESTRIANaNO PEDESTRIANSaCHILDREN CROSSINGaMENS SYMBOL",
      "aWOMENS SYMBOLaRESTROOMaBABY SYMBOLaTOILETaWATER CLOSETaSHOWERaBATHcTUBaPASSPORT CONTROL",
      "aCUSTOMSaBAGGAGE CLAIMaLEFT LUGGAGEaTRIANGLE WITH ROUNDED CORNERSaPROHIBITED SIGN",
      "aCIRCLED INFORMATION SOURCEaBOYS SYMBOLaGIRLS SYMBOLaCOUCH AND LAMP",
      "aSLEEPING ACCOMMODATIONaSHOPPING BAGSaBELLHOP BELLbDaPLACE OF WORSHIPaOCTAGONAL SIGN",
      "aSHOPPING TROLLEYaSTUPAaPAGODAaHINDU TEMPLEaHUTaELEVATOR"]),
   (0x1F6DD,
     ["aPLAYGROUND SLIDEaWHEELaRING BUOYaHAMMER AND WRENCHaSHIELDaOIL DRUMaMOTORWAY",
      "aRAILWAY TRACKaMOTOR BOATaUP-POINTING MILITARY AIRPLANEgAIRPLANEgSMALL AIRPLANE",
      "aSMALL AIRPLANEaNORTHEAST-POINTING AIRPLANEaAIRPLANE DEPARTUREe ARRIVING"]),
   (0x1F6F0,
     ["aSATELLITEaONCOMING FIRE ENGINEaDIESEL LOCOMOTIVEaPASSENGER SHIPaSCOOTERaMOTOR SCOOTER",
      "aCANOEaSLEDaFLYING SAUCERaSKATEBOARDaAUTO RICKSHAWaPICKUP TRUCKaROLLER SKATE"]),
   (0x1F700,
     ["aALCHEMICAL SYMBOL FOR QUINTESSENCElAIRlFIRElEARTHlWATERlAQUAFORTISn REGIAq-2n VITAEq-2",
      "lVINEGARoR-2p3lSULFURlPHILOSOPHERS SULFURlBLACK SULFURlMERCURY SUBLIMATEtE-2u3lCINNABAR",
      "lSALTlNITRElVITRIOLoL-2lROCK SALTpT-2lGOLDlSILVERlIRON OREp-2lCROCUS OF IRON",
      "lREGULUS OF IRONlCOPPER ORElIRON-COPPER ORElSUBLIMATE OF COPPERlCROCUS OF COPPERt-2",
      "lCOPPER ANTIMONIATElSALT OF COPPER ANTIMONIATElSUBLIMATE OF SALT OF COPPERlVERDIGRIS",
      "lTIN ORElLEAD ORElANTIMONY ORElSUBLIMATE OF ANTIMONYlSALT OF ANTIMONY",
      "lSUBLIMATE OF SALT OF ANTIMONYlVINEGAR OF ANTIMONYlREGULUS OF ANTIMONYuY-2oSoS-2p3p4",
      "lALKALIo-2lMARCASITElSAL-AMMONIAClARSENIClREALGARoR-2lAURIPIGMENTlBISMUTH ORElTARTARo-2",
      "lQUICK LIMElBORAXnX-2o3lALUMlOILlSPIRITlTINCTURElGUMlWAXlPOWDERlCALXlTUTTYlCAPUT MORTUUM",
      "lSCEPTER OF JOVElCADUCEUSlTRIDENTlSTARRED TRIDENTlLODESTONElSOAPlURINElHORSE DUNGlASHES",
      "lPOT ASHESlBRICKlPOWDERED BRICKlAMALGAMlSTRATUM SUPER STRATUMvM-2lSUBLIMATION",
      "lPRECIPITATElDISTILLmSSOLVEp-2lPURIFYmTREFACTIONlCRUCIBLEp-2p-3p-4p-5lALEMBIC",
      "lBATH OF MARYpVAPOURSlRETORTlHOURlNIGHTlDAY-NIGHTlMONTHlHALF DRAMn OUNCE"]),
   (0x1F780,
     ["aBLACK LEFT-POINTING ISOSCELES RIGHT TRIANGLEdUP-POINTING ISOSCELES RIGHT TRIANGLE",
      "dRIGHT-POINTING ISOSCELES RIGHT TRIANGLEdDOWN-POINTING ISOSCELES RIGHT TRIANGLE",
      "dSLIGHTLY SMALL CIRCLEaMEDIUM BOLD WHITE CIRCLEaBOLD WHITE CIRCLEaHEAVY WHITE CIRCLE",
      "aVERY HEAVY WHITE CIRCLEaEXTREMELY HEAVY WHITE CIRCLE",
      "aWHITE CIRCLE CONTAINING BLACK SMALL CIRCLEaROUND TARGETaBLACK TINY SQUARE",
      "dSLIGHTLY SMALL SQUAREaLIGHT WHITE SQUAREaMEDIUM WHITE SQUAREaBOLD WHITE SQUARE",
      "aHEAVY WHITE SQUAREaVERY HEAVY WHITE SQUAREaEXTREMELY HEAVY WHITE SQUARE",
      "aWHITE SQUARE CONTAINING BLACK VERY SMALL SQUAREpMEDIUM SQUAREaSQUARE TARGET",
      "aBLACK TINY DIAMONDdVERY SMALL DIAMONDdMEDIUM SMALL DIAMOND",
      "aWHITE DIAMOND CONTAINING BLACK VERY SMALL DIAMONDp MEDIUM DIAMONDaDIAMOND TARGET",
      "aBLACK TINY LOZENGEdVERY SMALL LOZENGEdMEDIUM SMALL LOZENGE",
      "aWHITE LOZENGE CONTAINING BLACK SMALL LOZENGEaTHIN GREEK CROSSaLIGHT GREEK CROSS",
      "aMEDIUM GREEK CROSSaBOLD GREEK CROSSaVERY BOLD GREEK CROSSc HEAVY GREEK CROSS",
      "aEXTREMELY HEAVY GREEK CROSSaTHIN SALTIREaLIGHT SALTIREaMEDIUM SALTIREaBOLD SALTIRE",
      "aHEAVY SALTIREaVERY HEAVY SALTIREaEXTREMELY HEAVY SALTIREaLIGHT FIVE SPOKED ASTERISK",
      "aMEDIUM FIVE SPOKED ASTERISKaBOLD FIVE SPOKED ASTERISKaHEAVY FIVE SPOKED ASTERISK",
      "aVERY HEAVY FIVE SPOKED ASTERISKaEXTREMELY HEAVY FIVE SPOKED ASTERISK",
      "aLIGHT SIX SPOKED ASTERISKaMEDIUM SIX SPOKED ASTERISKaBOLD SIX SPOKED ASTERISK",
      "aHEAVY SIX SPOKED ASTERISKaVERY HEAVY SIX SPOKED ASTERISK",
      "aEXTREMELY HEAVY SIX SPOKED ASTERISKaLIGHT EIGHT SPOKED ASTERISK",
      "aMEDIUM EIGHT SPOKED ASTERISKaBOLD EIGHT SPOKED ASTERISKaHEAVY EIGHT SPOKED ASTERISK",
      "aVERY HEAVY EIGHT SPOKED ASTERISKaLIGHT THREE POINTED BLACK STAR",
      "aMEDIUM THREE POINTED BLACK STARaTHREE POINTED BLACK STAR",
      "aMEDIUM THREE POINTED PINWHEEL STARaLIGHT FOUR POINTED BLACK STAR",
      "aMEDIUM FOUR POINTED BLACK STARaFOUR POINTED BLACK STAR",
      "aMEDIUM FOUR POINTED PINWHEEL STARaREVERSE LIGHT FOUR POINTED PINWHEEL STAR",
      "aLIGHT FIVE POINTED BLACK STARaHEAVY FIVE POINTED BLACK STAR",
      "aMEDIUM SIX POINTED BLACK STARaHEAVY SIX POINTED BLACK STARaSIX POINTED PINWHEEL STAR",
      "aMEDIUM EIGHT POINTED BLACK STARaHEAVY EIGHT POINTED BLACK STAR",
      "aVERY HEAVY EIGHT POINTED BLACK STARaHEAVY EIGHT POINTED PINWHEEL STAR",
      "aLIGHT TWELVE POINTED BLACK STARaHEAVY TWELVE POINTED BLACK STARk PINWHEEL STAR",
      "aCIRCLED TRIANGLEaNEGATIVE CIRCLED TRIANGLEaCIRCLED SQUAREaNEGATIVE CIRCLED SQUARE"]),
   (0x1F7E0,
     ["aLARGE ORANGE CIRCLEdYELLOW CIRCLEdGREEN CIRCLEdPURPLE CIRCLEdBROWN CIRCLEdRED SQUARE",
      "dBLUE SQUAREdORANGE SQUAREdYELLOW SQUAREdGREEN SQUAREdPURPLE SQUAREdBROWN SQUARE"]),
   (0x1F7F0, ["aHEAVY EQUALS SIGN"]),
   (0x1F800,
     ["aLEFTWARDS ARROW WITH SMALL TRIANGLE ARROWHEAD",
      "aUPWARDS ARROW WITH SMALL TRIANGLE ARROWHEAD",
      "aRIGHTWARDS ARROW WITH SMALL TRIANGLE ARROWHEAD",
      "aDOWNWARDS ARROW WITH SMALL TRIANGLE ARROWHEAD",
      "aLEFTWARDS ARROW WITH MEDIUM TRIANGLE ARROWHEAD",
      "aUPWARDS ARROW WITH MEDIUM TRIANGLE ARROWHEAD",
      "aRIGHTWARDS ARROW WITH MEDIUM TRIANGLE ARROWHEAD",
      "aDOWNWARDS ARROW WITH MEDIUM TRIANGLE ARROWHEAD",
      "aLEFTWARDS ARROW WITH LARGE TRIANGLE ARROWHEAD",
      "aUPWARDS ARROW WITH LARGE TRIANGLE ARROWHEAD",
      "aRIGHTWARDS ARROW WITH LARGE TRIANGLE ARROWHEAD",
      "aDOWNWARDS ARROW WITH LARGE TRIANGLE ARROWHEAD"]),
   (0x1F810,
     ["aLEFTWARDS ARROW WITH SMALL EQUILATERAL ARROWHEAD",
      "aUPWARDS ARROW WITH SMALL EQUILATERAL ARROWHEAD",
      "aRIGHTWARDS ARROW WITH SMALL EQUILATERAL ARROWHEAD",
      "aDOWNWARDS ARROW WITH SMALL EQUILATERAL ARROWHEAD",
      "aLEFTWARDS ARROW WITH EQUILATERAL ARROWHEADaUPWARDS ARROW WITH EQUILATERAL ARROWHEAD",
      "aRIGHTWARDS ARROW WITH EQUILATERAL ARROWHEADaDOWNWARDS ARROW WITH EQUILATERAL ARROWHEAD",
      "aHEAVY LEFTWARDS ARROW WITH EQUILATERAL ARROWHEAD",
      "dUPWARDS ARROW WITH EQUILATERAL ARROWHEADdRIGHTWARDS ARROW WITH EQUILATERAL ARROWHEAD",
      "dDOWNWARDS ARROW WITH EQUILATERAL ARROWHEAD",
      "dLEFTWARDS ARROW WITH LARGE EQUILATERAL ARROWHEAD",
      "dUPWARDS ARROW WITH LARGE EQUILATERAL ARROWHEAD",
      "dRIGHTWARDS ARROW WITH LARGE EQUILATERAL ARROWHEAD",
      "dDOWNWARDS ARROW WITH LARGE EQUILATERAL ARROWHEAD",
      "aLEFTWARDS TRIANGLE-HEADED ARROW WITH NARROW SHAFT",
      "aUPWARDS TRIANGLE-HEADED ARROW WITH NARROW SHAFT",
      "aRIGHTWARDS TRIANGLE-HEADED ARROW WITH NARROW SHAFT",
      "aDOWNWARDS TRIANGLE-HEADED ARROW WITH NARROW SHAFT",
      "aLEFTWARDS TRIANGLE-HEADED ARROW WITH MEDIUM SHAFT",
      "aUPWARDS TRIANGLE-HEADED ARROW WITH MEDIUM SHAFT",
      "aRIGHTWARDS TRIANGLE-HEADED ARROW WITH MEDIUM SHAFT",
      "aDOWNWARDS TRIANGLE-HEADED ARROW WITH MEDIUM SHAFT",
      "aLEFTWARDS TRIANGLE-HEADED ARROW WITH BOLD SHAFT",
      "aUPWARDS TRIANGLE-HEADED ARROW WITH BOLD SHAFT",
      "aRIGHTWARDS TRIANGLE-HEADED ARROW WITH BOLD SHAFT",
      "aDOWNWARDS TRIANGLE-HEADED ARROW WITH BOLD SHAFT",
      "aLEFTWARDS TRIANGLE-HEADED ARROW WITH HEAVY SHAFT",
      "aUPWARDS TRIANGLE-HEADED ARROW WITH HEAVY SHAFT",
      "aRIGHTWARDS TRIANGLE-HEADED ARROW WITH HEAVY SHAFT",
      "aDOWNWARDS TRIANGLE-HEADED ARROW WITH HEAVY SHAFT",
      "aLEFTWARDS TRIANGLE-HEADED ARROW WITH VERY HEAVY SHAFT",
      "aUPWARDS TRIANGLE-HEADED ARROW WITH VERY HEAVY SHAFT",
      "aRIGHTWARDS TRIANGLE-HEADED ARROW WITH VERY HEAVY SHAFT",
      "aDOWNWARDS TRIANGLE-HEADED ARROW WITH VERY HEAVY SHAFTaLEFTWARDS FINGER-POST ARROW",
      "aUPWARDS FINGER-POST ARROWaRIGHTWARDS FINGER-POST ARROWaDOWNWARDS FINGER-POST ARROW",
      "aLEFTWARDS SQUARED ARROWaUPWARDS SQUARED ARROWaRIGHTWARDS SQUARED ARROW",
      "aDOWNWARDS SQUARED ARROWaLEFTWARDS COMPRESSED ARROWaUPWARDS COMPRESSED ARROW",
      "aRIGHTWARDS COMPRESSED ARROWaDOWNWARDS COMPRESSED ARROWaLEFTWARDS HEAVY COMPRESSED ARROW",
      "aUPWARDS HEAVY COMPRESSED ARROWaRIGHTWARDS HEAVY COMPRESSED ARROW",
      "aDOWNWARDS HEAVY COMPRESSED ARROWaLEFTWARDS HEAVY ARROWaUPWARDS HEAVY ARROW",
      "aRIGHTWARDS HEAVY ARROWaDOWNWARDS HEAVY ARROW"]),
   (0x1F850,
     ["aLEFTWARDS SANS-SERIF ARROWaUPWARDS SANS-SERIF ARROWaRIGHTWARDS SANS-SERIF ARROW",
      "aDOWNWARDS SANS-SERIF ARROWaNORTH WEST SANS-SERIF ARROWdEAST SANS-SERIF ARROW",
      "aSOUTH EAST SANS-SERIF ARROWdWEST SANS-SERIF ARROWaLEFT RIGHT SANS-SERIF ARROW",
      "aUP DOWN SANS-SERIF ARROW"]),
   (0x1F860,
     ["aWIDE-HEADED LEFTWARDS LIGHT BARB ARROWgUPWARDS LIGHT BARB ARROW",
      "gRIGHTWARDS LIGHT BARB ARROWgDOWNWARDS LIGHT BARB ARROWgNORTH WEST LIGHT BARB ARROW",
      "jEAST LIGHT BARB ARROWgSOUTH EAST LIGHT BARB ARROWjWEST LIGHT BARB ARROW",
      "gLEFTWARDS BARB ARROWgUPWARDS BARB ARROWgRIGHTWARDS BARB ARROWgDOWNWARDS BARB ARROW",
      "gNORTH WEST BARB ARROWjEAST BARB ARROWgSOUTH EAST BARB ARROWjWEST BARB ARROW",
      "gLEFTWARDS MEDIUM BARB ARROWgUPWARDS MEDIUM BARB ARROWgRIGHTWARDS MEDIUM BARB ARROW",
      "gDOWNWARDS MEDIUM BARB ARROWgNORTH WEST MEDIUM BARB ARROWjEAST MEDIUM BARB ARROW",
      "gSOUTH EAST MEDIUM BARB ARROWjWEST MEDIUM BARB ARROWgLEFTWARDS HEAVY BARB ARROW",
      "gUPWARDS HEAVY BARB ARROWgRIGHTWARDS HEAVY BARB ARROWgDOWNWARDS HEAVY BARB ARROW",
      "gNORTH WEST HEAVY BARB ARROWjEAST HEAVY BARB ARROWgSOUTH EAST HEAVY BARB ARROW",
      "jWEST HEAVY BARB ARROWgLEFTWARDS VERY HEAVY BARB ARROWgUPWARDS VERY HEAVY BARB ARROW",
      "gRIGHTWARDS VERY HEAVY BARB ARROWgDOWNWARDS VERY HEAVY BARB ARROW",
      "gNORTH WEST VERY HEAVY BARB ARROWjEAST VERY HEAVY BARB ARROW",
      "gSOUTH EAST VERY HEAVY BARB ARROWjWEST VERY HEAVY BARB ARROW"]),
   (0x1F890,
     ["aLEFTWARDS TRIANGLE ARROWHEADaUPWARDS TRIANGLE ARROWHEADaRIGHTWARDS TRIANGLE ARROWHEAD",
      "aDOWNWARDS TRIANGLE ARROWHEADaLEFTWARDS WHITE ARROW WITHIN TRIANGLE ARROWHEAD",
      "aUPWARDS WHITE ARROW WITHIN TRIANGLE ARROWHEAD",
      "aRIGHTWARDS WHITE ARROW WITHIN TRIANGLE ARROWHEAD",
      "aDOWNWARDS WHITE ARROW WITHIN TRIANGLE ARROWHEADaLEFTWARDS ARROW WITH NOTCHED TAIL",
      "aUPWARDS ARROW WITH NOTCHED TAILaRIGHTWARDS ARROW WITH NOTCHED TAIL",
      "aDOWNWARDS ARROW WITH NOTCHED TAILaHEAVY ARROW SHAFT WIDTH ONEmTWO THIRDSmONE HALFoTHIRD",
      "aLEFTWARDS BOTTOM-SHADED WHITE ARROWaRIGHTWARDS BOTTOM SHADED WHITE ARROW",
      "aLEFTWARDS TOP SHADED WHITE ARROWaRIGHTWARDS TOP SHADED WHITE ARROW",
      "aLEFTWARDS LEFT-SHADED WHITE ARROWaRIGHTWARDS RIGHT-SHADED WHITE ARROW",
      "aLEFTWARDS RIGHT-SHADED WHITE ARROWaRIGHTWARDS LEFT-SHADED WHITE ARROW",
      "aLEFTWARDS BACK-TILTED SHADOWED WHITE ARROWaRIGHTWARDS BACK-TILTED SHADOWED WHITE ARROW",
      "aLEFTWARDS FRONT-TILTED SHADOWED WHITE ARROW",
      "aRIGHTWARDS FRONT-TILTED SHADOWED WHITE ARROWaWHITE ARROW SHAFT WIDTH ONEmTWO THIRDS"]),
   (0x1F8B0,
     ["aARROW POINTING UPWARDS THEN NORTH WESTh RIGHTWARDS THEN CURVING SOUTH WEST"]),
   (0x1F900,
     ["aCIRCLED CROSS FORMEE WITH FOUR DOTSnTWO DOTSkaLEFT HALF CIRCLE WITH FOUR DOTS",
      "lTHREE DOTSlTWO DOTSlDOTiaDOWNWARD FACING HOOKiNOTCHED HOOKiHOOK WITH DOT",
      "iNOTCHED HOOK WITH DOTaPINCHED FINGERSaWHITE HEARTaBROWN HEARTaPINCHING HAND",
      "aZIPPER-MOUTH FACEaMONEY-MOUTH FACEaFACE WITH THERMOMETERaNERD FACEaTHINKING FACE",
      "aFACE WITH HEAD-BANDAGEaROBOT FACEaHUGGING FACEaSIGN OF THE HORNSaCALL ME HAND",
      "aRAISED BACK OF HANDaLEFT-FACING FISTaRIGHT-FACING FISTaHANDSHAKE",
      "c WITH INDEX AND MIDDLE FINGERS CROSSEDaI LOVE YOU HAND SIGNaFACE WITH COWBOY HAT",
      "aCLOWN FACEaNAUSEATED FACEaROLLING ON THE FLOOR LAUGHINGaDROOLING FACEaLYING FACE",
      "aFACE PALMaSNEEZING FACEaFACE WITH ONE EYEBROW RAISEDaGRINNING FACE WITH STAR EYES",
      "j ONE LARGE AND ONE SMALL EYEaFACE WITH FINGER COVERING CLOSED LIPS",
      "aSERIOUS FACE WITH SYMBOLS COVERING MOUTH",
      "aSMILING FACE WITH SMILING EYES AND HAND COVERING MOUTHaFACE WITH OPEN MOUTH VOMITING",
      "aSHOCKED FACE WITH EXPLODING HEADaPREGNANT WOMANaBREAST-FEEDINGaPALMS UP TOGETHERaSELFIE",
      "aPRINCEaMAN IN TUXEDOaMOTHER CHRISTMASaSHRUGaPERSON DOING CARTWHEELaJUGGLINGaFENCER",
      "aMODERN PENTATHLONaWRESTLERSaWATER POLOaHANDBALLaDIVING MASKaWILTED FLOWER",
      "aDRUM WITH DRUMSTICKSaCLINKING GLASSESaTUMBLER GLASSaSPOONaGOAL NETaRIFLE",
      "aFIRST PLACE MEDALaSECOND PLACE MEDALaTHIRD PLACE MEDALaBOXING GLOVE",
      "aMARTIAL ARTS UNIFORMaCURLING STONEaLACROSSE STICK AND BALLaSOFTBALLaFLYING DISC",
      "aCROISSANTaAVOCADOaCUCUMBERaBACONaPOTATOaCARROTaBAGUETTE BREADaGREEN SALAD",
      "aSHALLOW PAN OF FOODaSTUFFED FLATBREADaEGGaGLASS OF MILKaPEANUTSaKIWIFRUITaPANCAKES",
      "aDUMPLINGaFORTUNE COOKIEaTAKEOUT BOXaCHOPSTICKSaBOWL WITH SPOONaCUP WITH STRAWaCOCONUT",
      "aBROCCOLIaPIEaPRETZELaCUT OF MEATaSANDWICHaCANNED FOODaLEAFY GREENaMANGOaMOON CAKEaBAGEL",
      "aSMILING FACE WITH SMILING EYES AND THREE HEARTSaYAWNING FACEaSMILING FACE WITH TEAR",
      "aFACE WITH PARTY HORN AND PARTY HATfUNEVEN EYES AND WAVY MOUTHaOVERHEATED FACE",
      "aFREEZING FACEaNINJAaDISGUISED FACEaFACE HOLDING BACK TEARSc WITH PLEADING EYESaSARI",
      "aLAB COATaGOGGLESaHIKING BOOTaFLAT SHOEaCRABaLION FACEaSCORPIONaTURKEYaUNICORN FACE",
      "aEAGLEaDUCKaBATaSHARKaOWLaFOX FACEaBUTTERFLYaDEERaGORILLAaLIZARDaRHINOCEROSaSHRIMPaSQUID",
      "aGIRAFFE FACEaZEBRA FACEaHEDGEHOGaSAUROPODaT-REXaCRICKETaKANGAROOaLLAMAaPEACOCK",
      "aHIPPOPOTAMUSaPARROTaRACCOONaLOBSTERaMOSQUITOaMICROBEaBADGERaSWANaMAMMOTHaDODOaSLOTH",
      "aOTTERaORANGUTANaSKUNKaFLAMINGOaOYSTERaBEAVERaBISONaSEALaGUIDE DOGaPROBING CANE",
      "aEMOJI COMPONENT RED HAIRiCURLY HAIRiBALDiWHITE HAIRaBONEaLEGaFOOTaTOOTHaSUPERHERO",
      "cRVILLAINaSAFETY VESTaEAR WITH HEARING AIDaMOTORIZED WHEELCHAIRaMANUAL WHEELCHAIR",
      "aMECHANICAL ARMf LEGaCHEESE WEDGEaCUPCAKEaSALT SHAKERaBEVERAGE BOXaGARLICaONIONaFALAFEL",
      "aWAFFLEaBUTTERaMATE DRINKaICE CUBEaBUBBLE TEAaTROLLaSTANDING PERSONaKNEELING PERSON",
      "aDEAF PERSONaFACE WITH MONOCLEaADULTaCHILDaOLDER ADULTaBEARDED PERSON",
      "aPERSON WITH HEADSCARFd IN STEAMY ROOMd CLIMBINGd IN LOTUS POSITIONaMAGEaFAIRYaVAMPIRE",
      "aMERPERSONaELFaGENIEaZOMBIEaBRAINaORANGE HEARTaBILLED CAPaSCARFaGLOVESaCOATaSOCKS",
      "aRED GIFT ENVELOPEaFIRECRACKERaJIGSAW PUZZLE PIECEaTEST TUBEaPETRI DISHaDNA DOUBLE HELIX",
      "aCOMPASSaABACUSaFIRE EXTINGUISHERaTOOLBOXaBRICKaMAGNETaLUGGAGEaLOTION BOTTLE",
      "aSPOOL OF THREADaBALL OF YARNaSAFETY PINaTEDDY BEARaBROOMaBASKETaROLL OF PAPER",
      "aBAR OF SOAPaSPONGEaRECEIPTaNAZAR AMULETaNEUTRAL CHESS KINGhQUEENhROOKhBISHOPhKNIGHT",
      "hPAWNaWHITE CHESS KNIGHT ROTATED FORTY-FIVE DEGREES",
      "aBLACK CHESS KNIGHT ROTATED FORTY-FIVE DEGREES",
      "aNEUTRAL CHESS KNIGHT ROTATED FORTY-FIVE DEGREESaWHITE CHESS KING ROTATED NINETY DEGREES",
      "gQUEEN ROTATED NINETY DEGREESgROOK ROTATED NINETY DEGREESgBISHOP ROTATED NINETY DEGREES",
      "gKNIGHT ROTATED NINETY DEGREESgPAWN ROTATED NINETY DEGREES",
      "aBLACK CHESS KING ROTATED NINETY DEGREESgQUEEN ROTATED NINETY DEGREES",
      "gROOK ROTATED NINETY DEGREESgBISHOP ROTATED NINETY DEGREESgKNIGHT ROTATED NINETY DEGREES",
      "gPAWN ROTATED NINETY DEGREESaNEUTRAL CHESS KING ROTATED NINETY DEGREES",
      "hQUEEN ROTATED NINETY DEGREEShROOK ROTATED NINETY DEGREEShBISHOP ROTATED NINETY DEGREES",
      "hKNIGHT ROTATED NINETY DEGREEShPAWN ROTATED NINETY DEGREES",
      "aWHITE CHESS KNIGHT ROTATED ONE HUNDRED THIRTY-FIVE DEGREES",
      "aBLACK CHESS KNIGHT ROTATED ONE HUNDRED THIRTY-FIVE DEGREES",
      "aNEUTRAL CHESS KNIGHT ROTATED ONE HUNDRED THIRTY-FIVE DEGREESaWHITE CHESS TURNED KING",
      "j QUEENj ROOKj BISHOPj KNIGHTj PAWNaBLACK CHESS TURNED KINGj QUEENj ROOKj BISHOPj KNIGHT",
      "j PAWNaNEUTRAL CHESS TURNED KINGk QUEENk ROOKk BISHOPk KNIGHTk PAWN",
      "aWHITE CHESS KNIGHT ROTATED TWO HUNDRED TWENTY-FIVE DEGREES",
      "aBLACK CHESS KNIGHT ROTATED TWO HUNDRED TWENTY-FIVE DEGREES",
      "aNEUTRAL CHESS KNIGHT ROTATED TWO HUNDRED TWENTY-FIVE DEGREES",
      "aWHITE CHESS KING ROTATED TWO HUNDRED SEVENTY DEGREES",
      "gQUEEN ROTATED TWO HUNDRED SEVENTY DEGREESgROOK ROTATED TWO HUNDRED SEVENTY DEGREES",
      "gBISHOP ROTATED TWO HUNDRED SEVENTY DEGREESgKNIGHT ROTATED TWO HUNDRED SEVENTY DEGREES",
      "gPAWN ROTATED TWO HUNDRED SEVENTY DEGREES",
      "aBLACK CHESS KING ROTATED TWO HUNDRED SEVENTY DEGREES",
      "gQUEEN ROTATED TWO HUNDRED SEVENTY DEGREESgROOK ROTATED TWO HUNDRED SEVENTY DEGREES",
      "gBISHOP ROTATED TWO HUNDRED SEVENTY DEGREESgKNIGHT ROTATED TWO HUNDRED SEVENTY DEGREES",
      "gPAWN ROTATED TWO HUNDRED SEVENTY DEGREES",
      "aNEUTRAL CHESS KING ROTATED TWO HUNDRED SEVENTY DEGREES",
      "hQUEEN ROTATED TWO HUNDRED SEVENTY DEGREEShROOK ROTATED TWO HUNDRED SEVENTY DEGREES",
      "hBISHOP ROTATED TWO HUNDRED SEVENTY DEGREEShKNIGHT ROTATED TWO HUNDRED SEVENTY DEGREES",
      "hPAWN ROTATED TWO HUNDRED SEVENTY DEGREES",
      "aWHITE CHESS KNIGHT ROTATED THREE HUNDRED FIFTEEN DEGREES",
      "aBLACK CHESS KNIGHT ROTATED THREE HUNDRED FIFTEEN DEGREES",
      "aNEUTRAL CHESS KNIGHT ROTATED THREE HUNDRED FIFTEEN DEGREESaWHITE CHESS EQUIHOPPER",
      "aBLACK CHESS EQUIHOPPERaNEUTRAL CHESS EQUIHOPPER",
      "aWHITE CHESS EQUIHOPPER ROTATED NINETY DEGREES",
      "aBLACK CHESS EQUIHOPPER ROTATED NINETY DEGREES",
      "aNEUTRAL CHESS EQUIHOPPER ROTATED NINETY DEGREESaWHITE CHESS KNIGHT-QUEENj-ROOKj-BISHOP",
      "aBLACK CHESS KNIGHT-QUEENj-ROOKj-BISHOP"]),
   (0x1FA60,
     ["aXIANGQI RED GENERALgMANDARINgELEPHANTgHORSEgCHARIOTgCANNONgSOLDIEReBLACK GENERAL",
      "hMANDARINhELEPHANThHORSEhCHARIOThCANNONhSOLDIER"]),
   (0x1FA70, ["aBALLET SHOESaONE-PIECE SWIMSUITaBRIEFSaSHORTSaTHONG SANDAL"]),
   (0x1FA78, ["aDROP OF BLOODaADHESIVE BANDAGEaSTETHOSCOPEaX-RAYaCRUTCH"]),
   (0x1FA80, ["aYO-YOaKITEaPARACHUTEaBOOMERANGaMAGIC WANDaPINATAaNESTING DOLLS"]),
   (0x1FA90,
     ["aRINGED PLANETaCHAIRaRAZORaAXEaDIYA LAMPaBANJOaMILITARY HELMETaACCORDIONaLONG DRUMaCOIN",
      "aCARPENTRY SAWaSCREWDRIVERaLADDERaHOOKaMIRRORaWINDOWaPLUNGERaSEWING NEEDLEaKNOTaBUCKET",
      "aMOUSE TRAPaTOOTHBRUSHaHEADSTONEaPLACARDaROCKaMIRROR BALLaIDENTIFICATION CARD",
      "aLOW BATTERYaHAMSA"]),
   (0x1FAB0,
     ["aFLYaWORMaBEETLEaCOCKROACHaPOTTED PLANTaWOODaFEATHERaLOTUSaCORALaEMPTY NEST",
      "aNEST WITH EGGS"]),
   (0x1FAC0,
     ["aANATOMICAL HEARTaLUNGSaPEOPLE HUGGINGaPREGNANT MANe PERSONaPERSON WITH CROWN"]),
   (0x1FAD0,
     ["aBLUEBERRIESaBELL PEPPERaOLIVEaFLATBREADaTAMALEaFONDUEaTEAPOTaPOURING LIQUIDaBEANSaJAR"]),
   (0x1FAE0,
     ["aMELTING FACEaSALUTING FACEaFACE WITH OPEN EYES AND HAND OVER MOUTHfPEEKING EYE",
      "fDIAGONAL MOUTHaDOTTED LINE FACEaBITING LIPaBUBBLES"]),
   (0x1FAF0,
     ["aHAND WITH INDEX FINGER AND THUMB CROSSEDaRIGHTWARDS HANDaLEFTWARDS HANDaPALM DOWN HAND",
      "c UP HANDaINDEX POINTING AT THE VIEWERaHEART HANDS"]),
   (0x1FB00,
     ["aBLOCK SEXTANT-1h2h12h3h13h23h123h4h14h24h124h34h134h234h1234h5h15h25h125h35h235h1235h45",
      "h145h245h1245h345h1345h2345h12345h6h16h26h126h36h136h236h1236h46h146h1246h346h1346h2346",
      "h12346h56h156h256h1256h356h1356h2356h12356h456h1456h2456h12456h3456h13456h23456",
      "aLOWER LEFT BLOCK DIAGONAL LOWER MIDDLE LEFT TO LOWER CENTREzER RIGHT",
      "nUPPER MIDDLE LEFT TO LOWER CENTREzER RIGHTqLEFT TO LOWER CENTRE",
      "dRIGHT BLOCK DIAGONAL UPPER MIDDLE LEFT TO UPPER CENTREzPER RIGHT",
      "n LOWER MIDDLE LEFT TO UPPER CENTREzPER RIGHTq LEFT TO UPPER CENTRE",
      "q MIDDLE LEFT TO UPPER MIDDLE RIGHTq CENTRE TO LOWER MIDDLE RIGHT",
      "q LEFT TO LOWER MIDDLE RIGHTq CENTRE TO UPPER MIDDLE RIGHTq LEFT TO UPPER MIDDLE RIGHT",
      "q CENTRE TO UPPER RIGHTdLEFT BLOCK DIAGONAL UPPER CENTRE TO UPPER MIDDLE RIGHT",
      "qLEFT TO UPPER MIDDLE RIGHTqCENTRE TO LOWER MIDDLE RIGHTqLEFT TO LOWER MIDDLE RIGHT",
      "qCENTRE TO LOWER RIGHTqMIDDLE LEFT TO LOWER MIDDLE RIGHT",
      "aUPPER RIGHT BLOCK DIAGONAL LOWER MIDDLE LEFT TO LOWER CENTREzWER RIGHT",
      "n UPPER MIDDLE LEFT TO LOWER CENTREzWER RIGHTq LEFT TO LOWER CENTRE",
      "dLEFT BLOCK DIAGONAL UPPER MIDDLE LEFT TO UPPER CENTREzER RIGHT",
      "nLOWER MIDDLE LEFT TO UPPER CENTREzER RIGHTqLEFT TO UPPER CENTRE",
      "qMIDDLE LEFT TO UPPER MIDDLE RIGHTqCENTRE TO LOWER MIDDLE RIGHT",
      "qLEFT TO LOWER MIDDLE RIGHTqCENTRE TO UPPER MIDDLE RIGHTqLEFT TO UPPER MIDDLE RIGHT",
      "qCENTRE TO UPPER RIGHTdRIGHT BLOCK DIAGONAL UPPER CENTRE TO UPPER MIDDLE RIGHT",
      "q LEFT TO UPPER MIDDLE RIGHTq CENTRE TO LOWER MIDDLE RIGHTq LEFT TO LOWER MIDDLE RIGHT",
      "q CENTRE TO LOWER RIGHTq MIDDLE LEFT TO LOWER MIDDLE RIGHT",
      "dAND RIGHT AND LOWER TRIANGULAR THREE QUARTERS BLOCK",
      "aLEFT AND LOWER AND RIGHT TRIANGULAR THREE QUARTERS BLOCK",
      "aUPPER AND LEFT AND LOWER TRIANGULAR THREE QUARTERS BLOCK",
      "aLEFT AND UPPER AND RIGHT TRIANGULAR THREE QUARTERS BLOCKc TRIANGULAR ONE QUARTER BLOCK",
      "aUPPER TRIANGULAR ONE QUARTER BLOCKaRIGHT TRIANGULAR ONE QUARTER BLOCK",
      "aLOWER TRIANGULAR ONE QUARTER BLOCKaVERTICAL ONE EIGHTH BLOCK-2n3n4n5n6n7",
      "aHORIZONTAL ONE EIGHTH BLOCK-2o3o4o5o6o7aLEFT AND LOWER ONE EIGHTH BLOCK",
      "e UPPER ONE EIGHTH BLOCKaRIGHT AND UPPER ONE EIGHTH BLOCKfLOWER ONE EIGHTH BLOCK",
      "aUPPER AND LOWER ONE EIGHTH BLOCKaHORIZONTAL ONE EIGHTH BLOCK-1358",
      "aUPPER ONE QUARTER BLOCKdTHREE EIGHTHS BLOCKdFIVE EIGHTHS BLOCKdTHREE QUARTERS BLOCK",
      "dSEVEN EIGHTHS BLOCKaRIGHT ONE QUARTER BLOCKdTHREE EIGHTHS BLOCKdFIVE EIGHTHS BLOCK",
      "dTHREE QUARTERS BLOCKdSEVEN EIGHTHS BLOCKaLEFT HALF MEDIUM SHADEaRIGHT HALF MEDIUM SHADE",
      "aUPPER HALF MEDIUM SHADEaLOWER HALF MEDIUM SHADEaINVERSE MEDIUM SHADE",
      "aUPPER HALF BLOCK AND LOWER HALF INVERSE MEDIUM SHADE",
      "f INVERSE MEDIUM SHADE AND LOWER HALF BLOCK"]),
   (0x1FB94,
     ["aLEFT HALF INVERSE MEDIUM SHADE AND RIGHT HALF BLOCKaCHECKER BOARD FILL",
      "aINVERSE CHECKER BOARD FILLaHEAVY HORIZONTAL FILLaUPPER LEFT TO LOWER RIGHT FILL",
      "dRIGHT TO LOWER LEFT FILLdAND LOWER TRIANGULAR HALF BLOCK",
      "aLEFT AND RIGHT TRIANGULAR HALF BLOCKaUPPER LEFT TRIANGULAR MEDIUM SHADE",
      "dRIGHT TRIANGULAR MEDIUM SHADEaLOWER RIGHT TRIANGULAR MEDIUM SHADE",
      "dLEFT TRIANGULAR MEDIUM SHADEaBOX DRAWINGS LIGHT DIAGONAL UPPER CENTRE TO MIDDLE LEFT",
      "z RIGHToMIDDLE LEFT TO LOWER CENTREr RIGHT TO LOWER CENTRE",
      "oUPPER CENTRE TO MIDDLE LEFT TO LOWER CENTREz RIGHT TO LOWER CENTRE",
      "oMIDDLE LEFT TO LOWER CENTRE TO MIDDLE RIGHTv UPPER CENTRE TO MIDDLE RIGHT",
      "oUPPER CENTRE TO MIDDLE LEFT AND MIDDLE RIGHT TO LOWER CENTRE",
      "z RIGHT AND MIDDLE LEFT TO LOWER CENTREz RIGHT TO LOWER CENTRE TO MIDDLE LEFT",
      "z LEFT TO LOWER CENTRE TO MIDDLE RIGHT",
      "oMIDDLE LEFT TO UPPER CENTRE TO MIDDLE RIGHT TO LOWER CENTRE",
      "r RIGHT TO UPPER CENTRE TO MIDDLE LEFT TO LOWER CENTREoDIAMOND",
      "j HORIZONTAL WITH VERTICAL STROKEaARROWHEAD-SHAPED POINTERaINVERSE CHECK MARK",
      "aLEFT HALF RUNNING MANaRIGHT HALF RUNNING MANaINVERSE DOWNWARDS ARROW WITH TIP LEFTWARDS",
      "aLEFTWARDS ARROW AND UPPER AND LOWER ONE EIGHTH BLOCK",
      "aRIGHTWARDS ARROW AND UPPER AND LOWER ONE EIGHTH BLOCK",
      "aDOWNWARDS ARROW AND RIGHT ONE EIGHTH BLOCKaUPWARDS ARROW AND RIGHT ONE EIGHTH BLOCK",
      "aLEFT HALF FOLDERaRIGHT HALF FOLDERaVOIDED GREEK CROSSaRIGHT OPEN SQUARED DOT",
      "aNEGATIVE DIAGONAL CROSSjMIDDLE RIGHT TO LOWER CENTREjDIAMOND",
      "aWHITE HEAVY SALTIRE WITH ROUNDED CORNERSaLEFT THIRD WHITE RIGHT POINTING INDEX",
      "aMIDDLE THIRD WHITE RIGHT POINTING INDEXaRIGHT THIRD WHITE RIGHT POINTING INDEX",
      "aNEGATIVE SQUARED QUESTION MARKaSTICK FIGUREg WITH ARMS RAISEDg LEANING LEFTk RIGHT",
      "g WITH DRESSaWHITE UP-POINTING CHEVRON"]),
   (0x1FBF0, ["aSEGMENTED DIGIT ZEROiONEiTWOiTHREEiFOURiFIVEiSIXiSEVENiEIGHTiNINE"]),
   (0xE0001, ["aLANGUAGE TAG"]),
   (0xE0020,
     ["aTAG SPACEcEXCLAMATION MARKcQUOTATION MARKcNUMBER SIGNcDOLLAR SIGNcPERCENT SIGN",
      "cAMPERSANDcAPOSTROPHEcLEFT PARENTHESIScRIGHT PARENTHESIScASTERISKcPLUS SIGNcCOMMA",
      "cHYPHEN-MINUScFULL STOPcSOLIDUScDIGIT ZEROfONEfTWOfTHREEfFOURfFIVEfSIXfSEVENfEIGHTfNINE",
      "cCOLONcSEMICOLONcLESS-THAN SIGNcEQUALS SIGNcGREATER-THAN SIGNcQUESTION MARK",
      "cCOMMERCIAL ATcLATIN CAPITAL LETTER Am Bm Cm Dm Em Fm Gm Hm Im Jm Km Lm Mm Nm Om Pm Qm R",
      "m Sm Tm Um Vm Wm Xm Ym ZcLEFT SQUARE BRACKETcREVERSE SOLIDUScRIGHT SQUARE BRACKET",
      "cCIRCUMFLEX ACCENTcLOW LINEcGRAVE ACCENTcLATIN SMALL LETTER Al Bl Cl Dl El Fl Gl Hl Il J",
      "l Kl Ll Ml Nl Ol Pl Ql Rl Sl Tl Ul Vl Wl Xl Yl ZcLEFT CURLY BRACKETcVERTICAL LINE",
      "cRIGHT CURLY BRACKETcTILDEaCANCEL TAG"]),
   (0xE0100,
     ["aVARIATION SELECTOR-17k8k9j-20k1k2k3k4k5k6k7k8k9j-30k1k2k3k4k5k6k7k8k9j-40k1k2k3k4k5k6k7",
      "k8k9j-50k1k2k3k4k5k6k7k8k9j-60k1k2k3k4k5k6k7k8k9j-70k1k2k3k4k5k6k7k8k9j-80k1k2k3k4k5k6k7",
      "k8k9j-90k1k2k3k4k5k6k7k8k9j-100k01k02k03k04k05k06k07k08k09k10k11k12k13k14k15k16k17k18k19",
      "k20k21k22k23k24k25k26k27k28k29k30k31k32k33k34k35k36k37k38k39k40k41k42k43k44k45k46k47k48",
      "k49k50k51k52k53k54k55k56k57k58k59k60k61k62k63k64k65k66k67k68k69k70k71k72k73k74k75k76k77",
      "k78k79k80k81k82k83k84k85k86k87k88k89k90k91k92k93k94k95k96k97k98k99j-200k01k02k03k04k05",
      "k06k07k08k09k10k11k12k13k14k15k16k17k18k19k20k21k22k23k24k25k26k27k28k29k30k31k32k33k34",
      "k35k36k37k38k39k40k41k42k43k44k45k46k47k48k49k50k51k52k53k54k55k56"])]

end TreeQuote.CharacterName

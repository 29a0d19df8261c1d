/-
TreeQuote/Text/CharacterName/Symbols.lean

The names of punctuation, arrows, operators and technical symbols, in runs of code points with
names.  How a run is written is said where runs are read.
-/

namespace TreeQuote.CharacterName

/-- Runs of names of punctuation, arrows, operators and technical symbols. -/
def symbols : List (Nat × List String) :=
  [(0x2000,
     ["aEN QUADaEM QUADaEN SPACEaEM SPACEaTHREE-PER-EM SPACEaFOUR-PER-EM SPACEaSIX-PER-EM SPACE",
      "aFIGURE SPACEaPUNCTUATION SPACEaTHIN SPACEaHAIR SPACEaZERO WIDTH SPACEf NON-JOINER",
      "f JOINERaLEFT-TO-RIGHT MARKaRIGHT-TO-LEFT MARKaHYPHENaNON-BREAKING HYPHENaFIGURE DASH",
      "aEN DASHaEM DASHaHORIZONTAL BARaDOUBLE VERTICAL LINEd LOW LINE",
      "aLEFT SINGLE QUOTATION MARKaRIGHT SINGLE QUOTATION MARKaSINGLE LOW-9 QUOTATION MARK",
      "d HIGH-REVERSED-9 QUOTATION MARKaLEFT DOUBLE QUOTATION MARKaRIGHT DOUBLE QUOTATION MARK",
      "aDOUBLE LOW-9 QUOTATION MARKd HIGH-REVERSED-9 QUOTATION MARKaDAGGERaDOUBLE DAGGERaBULLET",
      "aTRIANGULAR BULLETaONE DOT LEADERaTWO DOT LEADERaHORIZONTAL ELLIPSISaHYPHENATION POINT",
      "aLINE SEPARATORaPARAGRAPH SEPARATORaLEFT-TO-RIGHT EMBEDDINGaRIGHT-TO-LEFT EMBEDDING",
      "aPOP DIRECTIONAL FORMATTINGaLEFT-TO-RIGHT OVERRIDEaRIGHT-TO-LEFT OVERRIDE",
      "aNARROW NO-BREAK SPACEaPER MILLE SIGNcTEN THOUSAND SIGNaPRIMEaDOUBLE PRIMEaTRIPLE PRIME",
      "aREVERSED PRIMEe DOUBLE PRIMEe TRIPLE PRIMEaCARET",
      "aSINGLE LEFT-POINTING ANGLE QUOTATION MARKd RIGHT-POINTING ANGLE QUOTATION MARK",
      "aREFERENCE MARKaDOUBLE EXCLAMATION MARKaINTERROBANGaOVERLINEaUNDERTIEaCHARACTER TIE",
      "aCARET INSERTION POINTaASTERISMaHYPHEN BULLETaFRACTION SLASH",
      "aLEFT SQUARE BRACKET WITH QUILLaRIGHT SQUARE BRACKET WITH QUILLaDOUBLE QUESTION MARK",
      "aQUESTION EXCLAMATION MARKaEXCLAMATION QUESTION MARKaTIRONIAN SIGN ET",
      "aREVERSED PILCROW SIGNaBLACK LEFTWARDS BULLETdRIGHTWARDS BULLETaLOW ASTERISK",
      "aREVERSED SEMICOLONaCLOSE UPaTWO ASTERISKS ALIGNED VERTICALLYaCOMMERCIAL MINUS SIGN",
      "aSWUNG DASHaINVERTED UNDERTIEaFLOWER PUNCTUATION MARKaTHREE DOT PUNCTUATION",
      "aQUADRUPLE PRIMEaFOUR DOT PUNCTUATIONaFIVE DOT PUNCTUATIONaTWO DOT PUNCTUATION",
      "aFOUR DOT MARKaDOTTED CROSSaTRICOLONaVERTICAL FOUR DOTSaMEDIUM MATHEMATICAL SPACE",
      "aWORD JOINERaFUNCTION APPLICATIONaINVISIBLE TIMESfSEPARATORfPLUS"]),
   (0x2066,
     ["aLEFT-TO-RIGHT ISOLATEaRIGHT-TO-LEFT ISOLATEaFIRST STRONG ISOLATE",
      "aPOP DIRECTIONAL ISOLATEaINHIBIT SYMMETRIC SWAPPINGaACTIVATE SYMMETRIC SWAPPING",
      "aINHIBIT ARABIC FORM SHAPINGaACTIVATE ARABIC FORM SHAPINGaNATIONAL DIGIT SHAPES",
      "aNOMINAL DIGIT SHAPESaSUPERSCRIPT ZEROgLATIN SMALL LETTER I"]),
   (0x2074,
     ["aSUPERSCRIPT FOURgFIVEgSIXgSEVENgEIGHTgNINEgPLUS SIGNgMINUSgEQUALS SIGNgLEFT PARENTHESIS",
      "gRIGHT PARENTHESISgLATIN SMALL LETTER NbBSCRIPT ZEROfONEfTWOfTHREEfFOURfFIVEfSIXfSEVEN",
      "fEIGHTfNINEfPLUS SIGNfMINUSfEQUALS SIGNfLEFT PARENTHESISfRIGHT PARENTHESIS"]),
   (0x2090,
     ["aLATIN SUBSCRIPT SMALL LETTER Ao Eo Oo Xo SCHWAo Ho Ko Lo Mo No Po So T"]),
   (0x20A0,
     ["aEURO-CURRENCY SIGNaCOLON SIGNaCRUZEIRO SIGNaFRENCH FRANC SIGNaLIRA SIGNaMILL SIGN",
      "aNAIRA SIGNaPESETA SIGNaRUPEE SIGNaWON SIGNaNEW SHEQEL SIGNaDONG SIGNaEURO SIGNaKIP SIGN",
      "aTUGRIK SIGNaDRACHMA SIGNaGERMAN PENNY SIGNaPESO SIGNaGUARANI SIGNaAUSTRAL SIGN",
      "aHRYVNIA SIGNaCEDI SIGNaLIVRE TOURNOIS SIGNaSPESMILO SIGNaTENGE SIGNaINDIAN RUPEE SIGN",
      "aTURKISH LIRA SIGNaNORDIC MARK SIGNaMANAT SIGNaRUBLE SIGNaLARI SIGNaBITCOIN SIGN",
      "aSOM SIGN"]),
   (0x20D0,
     ["aCOMBINING LEFT HARPOON ABOVEfRIGHT HARPOON ABOVEfLONG VERTICAL LINE OVERLAY",
      "fSHORT VERTICAL LINE OVERLAYfANTICLOCKWISE ARROW ABOVEfCLOCKWISE ARROW ABOVE",
      "fLEFT ARROW ABOVEfRIGHT ARROW ABOVEgNG OVERLAYfCLOCKWISE RING OVERLAY",
      "fANTICLOCKWISE RING OVERLAYfTHREE DOTS ABOVEfFOUR DOTS ABOVEfENCLOSING CIRCLEkSQUARE",
      "kDIAMONDkCIRCLE BACKSLASHfLEFT RIGHT ARROW ABOVEfENCLOSING SCREENkKEYCAP",
      "kUPWARD POINTING TRIANGLEfREVERSE SOLIDUS OVERLAYfDOUBLE VERTICAL STROKE OVERLAY",
      "fANNUITY SYMBOLfTRIPLE UNDERDOTfWIDE BRIDGE ABOVEfLEFTWARDS ARROW OVERLAY",
      "fLONG DOUBLE SOLIDUS OVERLAYfRIGHTWARDS HARPOON WITH BARB DOWNWARDS",
      "fLEFTWARDS HARPOON WITH BARB DOWNWARDSh ARROW BELOWfRIGHT ARROW BELOWfASTERISK ABOVE"]),
   (0x2100,
     ["aACCOUNT OFaADDRESSED TO THE SUBJECTaDOUBLE-STRUCK CAPITAL CaDEGREE CELSIUS",
      "aCENTRE LINE SYMBOLaCARE OFbDA UNAaEULER CONSTANTaSCRUPLEaDEGREE FAHRENHEIT",
      "aSCRIPT SMALL Gd CAPITAL HaBLACK-LETTER CAPITAL HaDOUBLE-STRUCK CAPITAL H",
      "aPLANCK CONSTANThT OVER TWO PIaSCRIPT CAPITAL IaBLACK-LETTER CAPITAL IaSCRIPT CAPITAL L",
      "d SMALL LaL B BAR SYMBOLaDOUBLE-STRUCK CAPITAL NaNUMERO SIGNaSOUND RECORDING COPYRIGHT",
      "aSCRIPT CAPITAL PaDOUBLE-STRUCK CAPITAL PlQaSCRIPT CAPITAL RaBLACK-LETTER CAPITAL R",
      "aDOUBLE-STRUCK CAPITAL RaPRESCRIPTION TAKEaRESPONSEaSERVICE MARKaTELEPHONE SIGN",
      "aTRADE MARK SIGNaVERSICLEaDOUBLE-STRUCK CAPITAL ZaOUNCE SIGNaOHM SIGNaINVERTED OHM SIGN",
      "aBLACK-LETTER CAPITAL ZaTURNED GREEK SMALL LETTER IOTAaKELVIN SIGNaANGSTROM SIGN",
      "aSCRIPT CAPITAL BaBLACK-LETTER CAPITAL CaESTIMATED SYMBOLaSCRIPT SMALL Ed CAPITAL Eh F",
      "aTURNED CAPITAL FaSCRIPT CAPITAL Md SMALL OaALEF SYMBOLaBET SYMBOLaGIMEL SYMBOL",
      "aDALET SYMBOLaINFORMATION SOURCEaROTATED CAPITAL QaFACSIMILE SIGNaDOUBLE-STRUCK SMALL PI",
      "kGAMMAhCAPITAL GAMMAlPIhN-ARY SUMMATIONaTURNED SANS-SERIF CAPITAL GnL",
      "aREVERSED SANS-SERIF CAPITAL LaTURNED SANS-SERIF CAPITAL Y",
      "aDOUBLE-STRUCK ITALIC CAPITAL Dk SMALL Dn En In JaPROPERTY LINEaTURNED AMPERSAND",
      "aPER SIGNaAKTIESELSKABaTURNED SMALL FaSYMBOL FOR SAMARITAN SOURCE",
      "aVULGAR FRACTION ONE SEVENTHkNINTHkTENTHkTHIRDiTWO THIRDSiONE FIFTHiTWO FIFTHS",
      "iTHREE FIFTHSiFOUR FIFTHSiONE SIXTHiFIVE SIXTHSiONE EIGHTHiTHREE EIGHTHSiFIVE EIGHTHS",
      "iSEVEN EIGHTHSaFRACTION NUMERATOR ONEaROMAN NUMERAL ONEhTWOhTHREEhFOURhFIVEhSIXhSEVEN",
      "hEIGHThNINEhTENhELEVENhTWELVEhFIFTYhONE HUNDREDhFIVE HUNDREDhONE THOUSAND",
      "aSMALL ROMAN NUMERAL ONEkTWOkTHREEkFOURkFIVEkSIXkSEVENkEIGHTkNINEkTENkELEVENkTWELVE",
      "kFIFTYkONE HUNDREDkFIVE HUNDREDkONE THOUSANDaROMAN NUMERAL ONE THOUSAND C D",
      "hFIVE THOUSANDhTEN THOUSANDhREVERSED ONE HUNDREDaLATIN SMALL LETTER REVERSED C",
      "aROMAN NUMERAL SIX LATE FORMhFIFTY EARLY FORMkTHOUSANDhONE HUNDRED THOUSAND",
      "aVULGAR FRACTION ZERO THIRDSaTURNED DIGIT TWOhHREE"]),
   (0x2190,
     ["aLEFTWARDS ARROWaUPWARDS ARROWaRIGHTWARDS ARROWaDOWNWARDS ARROWaLEFT RIGHT ARROW",
      "aUP DOWN ARROWaNORTH WEST ARROWdEAST ARROWaSOUTH EAST ARROWdWEST ARROW",
      "aLEFTWARDS ARROW WITH STROKEaRIGHTWARDS ARROW WITH STROKEaLEFTWARDS WAVE ARROW",
      "aRIGHTWARDS WAVE ARROWaLEFTWARDS TWO HEADED ARROWaUPWARDS TWO HEADED ARROW",
      "aRIGHTWARDS TWO HEADED ARROWaDOWNWARDS TWO HEADED ARROWaLEFTWARDS ARROW WITH TAIL",
      "aRIGHTWARDS ARROW WITH TAILaLEFTWARDS ARROW FROM BARaUPWARDS ARROW FROM BAR",
      "aRIGHTWARDS ARROW FROM BARaDOWNWARDS ARROW FROM BARaUP DOWN ARROW WITH BASE",
      "aLEFTWARDS ARROW WITH HOOKaRIGHTWARDS ARROW WITH HOOKaLEFTWARDS ARROW WITH LOOP",
      "aRIGHTWARDS ARROW WITH LOOPaLEFT RIGHT WAVE ARROWf ARROW WITH STROKE",
      "aDOWNWARDS ZIGZAG ARROWaUPWARDS ARROW WITH TIP LEFTWARDSl RIGHTWARDS",
      "aDOWNWARDS ARROW WITH TIP LEFTWARDSm RIGHTWARDSaRIGHTWARDS ARROW WITH CORNER DOWNWARDS",
      "aDOWNWARDS ARROW WITH CORNER LEFTWARDSaANTICLOCKWISE TOP SEMICIRCLE ARROW",
      "aCLOCKWISE TOP SEMICIRCLE ARROWaNORTH WEST ARROW TO LONG BAR",
      "aLEFTWARDS ARROW TO BAR OVER RIGHTWARDS ARROW TO BARaANTICLOCKWISE OPEN CIRCLE ARROW",
      "aCLOCKWISE OPEN CIRCLE ARROWaLEFTWARDS HARPOON WITH BARB UPWARDSoDOWNWARDS",
      "aUPWARDS HARPOON WITH BARB RIGHTWARDSnLEFTWARDSaRIGHTWARDS HARPOON WITH BARB UPWARDS",
      "o DOWNWARDSaDOWNWARDS HARPOON WITH BARB RIGHTWARDSoLEFTWARDS",
      "aRIGHTWARDS ARROW OVER LEFTWARDS ARROWaUPWARDS ARROW LEFTWARDS OF DOWNWARDS ARROW",
      "aLEFTWARDS ARROW OVER RIGHTWARDS ARROWfPAIRED ARROWSaUPWARDS PAIRED ARROWS",
      "aRIGHTWARDS PAIRED ARROWSaDOWNWARDS PAIRED ARROWS",
      "aLEFTWARDS HARPOON OVER RIGHTWARDS HARPOONaRIGHTWARDS HARPOON OVER LEFTWARDS HARPOON",
      "aLEFTWARDS DOUBLE ARROW WITH STROKEc RIGHT DOUBLE ARROW WITH STROKE",
      "aRIGHTWARDS DOUBLE ARROW WITH STROKEaLEFTWARDS DOUBLE ARROWaUPWARDS DOUBLE ARROW",
      "aRIGHTWARDS DOUBLE ARROWaDOWNWARDS DOUBLE ARROWaLEFT RIGHT DOUBLE ARROW",
      "aUP DOWN DOUBLE ARROWaNORTH WEST DOUBLE ARROWdEAST DOUBLE ARROWaSOUTH EAST DOUBLE ARROW",
      "dWEST DOUBLE ARROWaLEFTWARDS TRIPLE ARROWaRIGHTWARDS TRIPLE ARROW",
      "aLEFTWARDS SQUIGGLE ARROWaRIGHTWARDS SQUIGGLE ARROWaUPWARDS ARROW WITH DOUBLE STROKE",
      "aDOWNWARDS ARROW WITH DOUBLE STROKEaLEFTWARDS DASHED ARROWaUPWARDS DASHED ARROW",
      "aRIGHTWARDS DASHED ARROWaDOWNWARDS DASHED ARROWaLEFTWARDS ARROW TO BAR",
      "aRIGHTWARDS ARROW TO BARaLEFTWARDS WHITE ARROWaUPWARDS WHITE ARROW",
      "aRIGHTWARDS WHITE ARROWaDOWNWARDS WHITE ARROWaUPWARDS WHITE ARROW FROM BARkON PEDESTAL",
      "pL WITH HORIZONTAL BARs VERTICAL BARhDOUBLE ARROWn ON PEDESTAL",
      "aRIGHTWARDS WHITE ARROW FROM WALLaNORTH WEST ARROW TO CORNERaSOUTH EAST ARROW TO CORNER",
      "aUP DOWN WHITE ARROWaRIGHT ARROW WITH SMALL CIRCLE",
      "aDOWNWARDS ARROW LEFTWARDS OF UPWARDS ARROWaTHREE RIGHTWARDS ARROWS",
      "aLEFTWARDS ARROW WITH VERTICAL STROKEaRIGHTWARDS ARROW WITH VERTICAL STROKE",
      "aLEFT RIGHT ARROW WITH VERTICAL STROKEcWARDS ARROW WITH DOUBLE VERTICAL STROKE",
      "aRIGHTWARDS ARROW WITH DOUBLE VERTICAL STROKE",
      "aLEFT RIGHT ARROW WITH DOUBLE VERTICAL STROKEcWARDS OPEN-HEADED ARROW",
      "aRIGHTWARDS OPEN-HEADED ARROWaLEFT RIGHT OPEN-HEADED ARROWaFOR ALLaCOMPLEMENT",
      "aPARTIAL DIFFERENTIALaTHERE EXISTSdDOES NOT EXISTaEMPTY SETaINCREMENTaNABLAaELEMENT OF",
      "aNOT AN ELEMENT OFaSMALL ELEMENT OFaCONTAINS AS MEMBERaDOES NOT CONTAIN AS MEMBER",
      "aSMALL CONTAINS AS MEMBERaEND OF PROOFaN-ARY PRODUCTdCOPRODUCTdSUMMATIONaMINUS SIGN",
      "cS-OR-PLUS SIGNaDOT PLUSaDIVISION SLASHaSET MINUSaASTERISK OPERATORaRING OPERATOR",
      "aBULLET OPERATORaSQUARE ROOTaCUBE ROOTaFOURTH ROOTaPROPORTIONAL TOaINFINITYaRIGHT ANGLE",
      "aANGLEaMEASURED ANGLEaSPHERICAL ANGLEaDIVIDESaDOES NOT DIVIDEaPARALLEL TO",
      "aNOT PARALLEL TOaLOGICAL ANDeORaINTERSECTIONaUNIONaINTEGRALaDOUBLE INTEGRAL",
      "aTRIPLE INTEGRALaCONTOUR INTEGRALaSURFACE INTEGRALaVOLUME INTEGRALaCLOCKWISE INTEGRAL",
      "fCONTOUR INTEGRALaANTICLOCKWISE CONTOUR INTEGRALaTHEREFOREaBECAUSEaRATIOaPROPORTION",
      "aDOT MINUSaEXCESSaGEOMETRIC PROPORTIONaHOMOTHETICaTILDE OPERATORaREVERSED TILDE",
      "aINVERTED LAZY SaSINE WAVEaWREATH PRODUCTaNOT TILDEaMINUS TILDEaASYMPTOTICALLY EQUAL TO",
      "aNOT ASYMPTOTICALLY EQUAL TOaAPPROXIMATELY EQUAL TOhBUT NOT ACTUALLY EQUAL TO",
      "aNEITHER APPROXIMATELY NOR ACTUALLY EQUAL TOaALMOST EQUAL TOaNOT ALMOST EQUAL TO",
      "aALMOST EQUAL OR EQUAL TOaTRIPLE TILDEaALL EQUAL TOaEQUIVALENT TO",
      "aGEOMETRICALLY EQUIVALENT TOaDIFFERENCE BETWEENaAPPROACHES THE LIMIT",
      "aGEOMETRICALLY EQUAL TOaAPPROXIMATELY EQUAL TO OR THE IMAGE OF",
      "aIMAGE OF OR APPROXIMATELY EQUAL TOaCOLON EQUALSaEQUALS COLONaRING IN EQUAL TOc EQUAL TO",
      "aCORRESPONDS TOaESTIMATESaEQUIANGULAR TOaSTAR EQUALSaDELTA EQUAL TO",
      "aEQUAL TO BY DEFINITIONaMEASURED BYaQUESTIONED EQUAL TOaNOT EQUAL TOaIDENTICAL TO",
      "aNOT IDENTICAL TOaSTRICTLY EQUIVALENT TOaLESS-THAN OR EQUAL TOaGREATER-THAN OR EQUAL TO",
      "aLESS-THAN OVER EQUAL TOaGREATER-THAN OVER EQUAL TOaLESS-THAN BUT NOT EQUAL TO",
      "aGREATER-THAN BUT NOT EQUAL TOaMUCH LESS-THANc GREATER-THANaBETWEENaNOT EQUIVALENT TO",
      "cLESS-THANcGREATER-THANaNEITHER LESS-THAN NOR EQUAL TOeGREATER-THAN NOR EQUAL TO",
      "aLESS-THAN OR EQUIVALENT TOaGREATER-THAN OR EQUIVALENT TO",
      "aNEITHER LESS-THAN NOR EQUIVALENT TOeGREATER-THAN NOR EQUIVALENT TO",
      "aLESS-THAN OR GREATER-THANaGREATER-THAN OR LESS-THANaNEITHER LESS-THAN NOR GREATER-THAN",
      "eGREATER-THAN NOR LESS-THANaPRECEDESaSUCCEEDSaPRECEDES OR EQUAL TOaSUCCEEDS OR EQUAL TO",
      "aPRECEDES OR EQUIVALENT TOaSUCCEEDS OR EQUIVALENT TOaDOES NOT PRECEDEe SUCCEEDaSUBSET OF",
      "bPERSET OFaNOT A SUBSET OFePERSET OFaSUBSET OF OR EQUAL TObPERSET OF OR EQUAL TO",
      "aNEITHER A SUBSET OF NOR EQUAL TOgPERSET OF NOR EQUAL TOaSUBSET OF WITH NOT EQUAL TO",
      "bPERSET OF WITH NOT EQUAL TOaMULTISETe MULTIPLICATIONe UNIONaSQUARE IMAGE OF",
      "d ORIGINAL OFd IMAGE OF OR EQUAL TOd ORIGINAL OF OR EQUAL TOd CAPeUPaCIRCLED PLUSeMINUS",
      "eTIMESeDIVISION SLASHeDOT OPERATOReRING OPERATOReASTERISK OPERATOReEQUALSeDASH",
      "aSQUARED PLUSeMINUSeTIMESeDOT OPERATORaRIGHT TACKaLEFT TACKaDOWN TACKaUP TACKaASSERTION",
      "aMODELSaTRUEaFORCESaTRIPLE VERTICAL BAR RIGHT TURNSTILE",
      "aDOUBLE VERTICAL BAR DOUBLE RIGHT TURNSTILEbES NOT PROVEaNOT TRUEaDOES NOT FORCE",
      "aNEGATED DOUBLE VERTICAL BAR DOUBLE RIGHT TURNSTILEaPRECEDES UNDER RELATION",
      "aSUCCEEDS UNDER RELATIONaNORMAL SUBGROUP OFaCONTAINS AS NORMAL SUBGROUP",
      "aNORMAL SUBGROUP OF OR EQUAL TOaCONTAINS AS NORMAL SUBGROUP OR EQUAL TOaORIGINAL OF",
      "aIMAGE OFaMULTIMAPaHERMITIAN CONJUGATE MATRIXaINTERCALATEaXORaNANDaNOR",
      "aRIGHT ANGLE WITH ARCdTRIANGLEaN-ARY LOGICAL ANDhORdINTERSECTIONdUNIONaDIAMOND OPERATOR",
      "aDOT OPERATORaSTAR OPERATORaDIVISION TIMESaBOWTIEaLEFT NORMAL FACTOR SEMIDIRECT PRODUCT",
      "aRIGHT NORMAL FACTOR SEMIDIRECT PRODUCTaLEFT SEMIDIRECT PRODUCTaRIGHT SEMIDIRECT PRODUCT",
      "aREVERSED TILDE EQUALSaCURLY LOGICAL ORhANDaDOUBLE SUBSETeUPERSETd INTERSECTIONd UNION",
      "aPITCHFORKaEQUAL AND PARALLEL TOaLESS-THAN WITH DOTaGREATER-THAN WITH DOT",
      "aVERY MUCH LESS-THANfGREATER-THANaLESS-THAN EQUAL TO OR GREATER-THAN",
      "aGREATER-THAN EQUAL TO OR LESS-THANaEQUAL TO OR LESS-THANgGREATER-THANgPRECEDESgSUCCEEDS",
      "aDOES NOT PRECEDE OR EQUALe SUCCEED OR EQUALaNOT SQUARE IMAGE OF OR EQUAL TO",
      "f ORIGINAL OF OR EQUAL TOaSQUARE IMAGE OF OR NOT EQUAL TOd ORIGINAL OF OR NOT EQUAL TO",
      "aLESS-THAN BUT NOT EQUIVALENT TOaGREATER-THAN BUT NOT EQUIVALENT TO",
      "aPRECEDES BUT NOT EQUIVALENT TOaSUCCEEDS BUT NOT EQUIVALENT TOaNOT NORMAL SUBGROUP OF",
      "aDOES NOT CONTAIN AS NORMAL SUBGROUPaNOT NORMAL SUBGROUP OF OR EQUAL TO",
      "aDOES NOT CONTAIN AS NORMAL SUBGROUP OR EQUALaVERTICAL ELLIPSIS",
      "aMIDLINE HORIZONTAL ELLIPSISaUP RIGHT DIAGONAL ELLIPSISaDOWN RIGHT DIAGONAL ELLIPSIS",
      "aELEMENT OF WITH LONG HORIZONTAL STROKEiVERTICAL BAR AT END OF HORIZONTAL STROKE",
      "aSMALL ELEMENT OF WITH VERTICAL BAR AT END OF HORIZONTAL STROKE",
      "aELEMENT OF WITH DOT ABOVEiOVERBARaSMALL ELEMENT OF WITH OVERBAR",
      "aELEMENT OF WITH UNDERBARiTWO HORIZONTAL STROKESaCONTAINS WITH LONG HORIZONTAL STROKE",
      "hVERTICAL BAR AT END OF HORIZONTAL STROKE",
      "aSMALL CONTAINS WITH VERTICAL BAR AT END OF HORIZONTAL STROKEaCONTAINS WITH OVERBAR",
      "aSMALL CONTAINS WITH OVERBARaZ NOTATION BAG MEMBERSHIPaDIAMETER SIGNaELECTRIC ARROW",
      "aHOUSEaUP ARROWHEADaDOWN ARROWHEADaPROJECTIVEaPERSPECTIVEaWAVY LINEaLEFT CEILING",
      "aRIGHT CEILINGaLEFT FLOORaRIGHT FLOORaBOTTOM RIGHT CROPd LEFT CROPaTOP RIGHT CROP",
      "cLEFT CROPaREVERSED NOT SIGNaSQUARE LOZENGEaARCaSEGMENTbCTORaTELEPHONE RECORDER",
      "aPOSITION INDICATORaVIEWDATA SQUAREaPLACE OF INTEREST SIGNaTURNED NOT SIGNaWATCH",
      "aHOURGLASSaTOP LEFT CORNERcRIGHT CORNERaBOTTOM LEFT CORNERd RIGHT CORNER",
      "aTOP HALF INTEGRALaBOTTOM HALF INTEGRALaFROWNaSMILE",
      "aUP ARROWHEAD BETWEEN TWO HORIZONTAL BARSaOPTION KEYaERASE TO THE RIGHT",
      "aX IN A RECTANGLE BOXaKEYBOARDaLEFT-POINTING ANGLE BRACKETaRIGHT-POINTING ANGLE BRACKET",
      "aERASE TO THE LEFTaBENZENE RINGaCYLINDRICITYaALL AROUND-PROFILEaSYMMETRYaTOTAL RUNOUT",
      "aDIMENSION ORIGINaCONICAL TAPERaSLOPEaCOUNTERBOREdRSINKaAPL FUNCTIONAL SYMBOL I-BEAM",
      "lSQUISH QUADlQUAD EQUALn DIVIDEoIAMONDn JOTn CIRCLElCIRCLE STILEo JOTlSLASH BAR",
      "lBACKSLASH BARlQUAD SLASHn BACKSLASHn LESS-THANn GREATER-THANlLEFTWARDS VANE",
      "lRIGHTWARDS VANElQUAD LEFTWARDS ARROWn RIGHTWARDS ARROWlCIRCLE BACKSLASH",
      "lDOWN TACK UNDERBARlDELTA STILElQUAD DOWN CAREToELTAlDOWN TACK JOTlUPWARDS VANE",
      "lQUAD UPWARDS ARROWlUP TACK OVERBARlDEL STILElQUAD UP CARETn DELlUP TACK JOT",
      "lDOWNWARDS VANElQUAD DOWNWARDS ARROWmOTE UNDERBARlDELTA UNDERBARlDIAMOND UNDERBAR",
      "lJOT UNDERBARlCIRCLE UNDERBARlUP SHOE JOTlQUOTE QUADlCIRCLE STARlQUAD COLON",
      "lUP TACK DIAERESISlDEL DIAERESISlSTAR DIAERESISlJOT DIAERESISlCIRCLE DIAERESIS",
      "lDOWN SHOE STILElLEFT SHOE STILElTILDE DIAERESISlGREATER-THAN DIAERESISlCOMMA BAR",
      "lDEL TILDElZILDElSTILE TILDElSEMICOLON UNDERBARlQUAD NOT EQUALn QUESTION",
      "lDOWN CARET TILDElUP CARET TILDElIOTAlRHOlOMEGAlALPHA UNDERBARlEPSILON UNDERBAR",
      "lIOTA UNDERBARlOMEGA UNDERBARlALPHAaNOT CHECK MARK",
      "aRIGHT ANGLE WITH DOWNWARDS ZIGZAG ARROWaSHOULDERED OPEN BOXaBELL SYMBOL",
      "aVERTICAL LINE WITH MIDDLE DOTaINSERTION SYMBOLaCONTINUOUS UNDERLINE SYMBOL",
      "aDISCONTINUOUS UNDERLINE SYMBOLaEMPHASIS SYMBOLaCOMPOSITION SYMBOL",
      "aWHITE SQUARE WITH CENTRE VERTICAL LINEaENTER SYMBOLaALTERNATIVE KEY SYMBOLaHELM SYMBOL",
      "aCIRCLED HORIZONTAL BAR WITH NOTCHeTRIANGLE DOWNaBROKEN CIRCLE WITH NORTHWEST ARROW",
      "aUNDO SYMBOLaMONOSTABLE SYMBOLaHYSTERESIS SYMBOLaOPEN-CIRCUIT-OUTPUT H-TYPE SYMBOL",
      "kL-TYPE SYMBOLaPASSIVE-PULL-DOWN-OUTPUT SYMBOLg-UP-OUTPUT SYMBOL",
      "aDIRECT CURRENT SYMBOL FORM TWOaSOFTWARE-FUNCTION SYMBOLaAPL FUNCTIONAL SYMBOL QUAD",
      "aDECIMAL SEPARATOR KEY SYMBOLaPREVIOUS PAGEaNEXT PAGEaPRINT SCREEN SYMBOL",
      "aCLEAR SCREEN SYMBOLaLEFT PARENTHESIS UPPER HOOKi EXTENSIONi LOWER HOOK",
      "aRIGHT PARENTHESIS UPPER HOOKjEXTENSIONjLOWER HOOKaLEFT SQUARE BRACKET UPPER CORNER",
      "kEXTENSIONkLOWER CORNERaRIGHT SQUARE BRACKET UPPER CORNERk EXTENSIONk LOWER CORNER",
      "aLEFT CURLY BRACKET UPPER HOOKj MIDDLE PIECEj LOWER HOOKaCURLY BRACKET EXTENSION",
      "aRIGHT CURLY BRACKET UPPER HOOKkMIDDLE PIECEkLOWER HOOKaINTEGRAL EXTENSION",
      "aHORIZONTAL LINE EXTENSIONaUPPER LEFT OR LOWER RIGHT CURLY BRACKET SECTION",
      "dRIGHT OR LOWER LEFT CURLY BRACKET SECTIONaSUMMATION TOPfBOTTOMaTOP SQUARE BRACKET",
      "aBOTTOM SQUARE BRACKETkT OVER TOP SQUARE BRACKETaRADICAL SYMBOL BOTTOM",
      "aLEFT VERTICAL BOX LINEaRIGHT VERTICAL BOX LINEaHORIZONTAL SCAN LINE-1k-3k-7k-9",
      "aDENTISTRY SYMBOL LIGHT VERTICAL AND TOP RIGHTsBOTTOM RIGHTqWITH CIRCLE",
      "l DOWN AND HORIZONTAL WITH CIRCLEl UP AND HORIZONTAL WITH CIRCLEl VERTICAL WITH TRIANGLE",
      "l DOWN AND HORIZONTAL WITH TRIANGLEl UP AND HORIZONTAL WITH TRIANGLEl VERTICAL AND WAVE",
      "l DOWN AND HORIZONTAL WITH WAVEl UP AND HORIZONTAL WITH WAVEl DOWN AND HORIZONTAL",
      "l UP AND HORIZONTALl VERTICAL AND TOP LEFTsBOTTOM LEFTaSQUARE FOOTaRETURN SYMBOL",
      "aEJECT SYMBOLaVERTICAL LINE EXTENSIONaMETRICAL BREVEe LONG OVER SHORTe SHORT OVER LONG",
      "e LONG OVER TWO SHORTSe TWO SHORTS OVER LONGkJOINEDfRISEMEfETRASEMEe PENTASEME",
      "aEARTH GROUNDaFUSEaTOP PARENTHESISaBOTTOM PARENTHESISaTOP CURLY BRACKET",
      "aBOTTOM CURLY BRACKETaTOP TORTOISE SHELL BRACKETaBOTTOM TORTOISE SHELL BRACKET",
      "aWHITE TRAPEZIUMaBENZENE RING WITH CIRCLEaSTRAIGHTNESSaFLATNESSaAC CURRENT",
      "aELECTRICAL INTERSECTIONaDECIMAL EXPONENT SYMBOLaBLACK RIGHT-POINTING DOUBLE TRIANGLE",
      "dLEFT-POINTING DOUBLE TRIANGLEdUP-POINTING DOUBLE TRIANGLEdDOWN-POINTING DOUBLE TRIANGLE",
      "dRIGHT-POINTING DOUBLE TRIANGLE WITH VERTICAL BAR",
      "dLEFT-POINTING DOUBLE TRIANGLE WITH VERTICAL BAR",
      "dRIGHT-POINTING TRIANGLE WITH DOUBLE VERTICAL BARaALARM CLOCKaSTOPWATCHaTIMER CLOCK",
      "aHOURGLASS WITH FLOWING SANDaBLACK MEDIUM LEFT-POINTING TRIANGLE",
      "g RIGHT-POINTING TRIANGLEg UP-POINTING TRIANGLEg DOWN-POINTING TRIANGLE",
      "aDOUBLE VERTICAL BARaBLACK SQUARE FOR STOPdCIRCLE FOR RECORDaPOWER SYMBOLdON-OFF SYMBOL",
      "e SYMBOLdSLEEP SYMBOLaOBSERVER EYE SYMBOLaSYMBOL FOR NULLf START OF HEADINGkTEXT",
      "f END OF TEXTjTRANSMISSIONgNQUIRYf ACKNOWLEDGEf BELLgACKSPACEf HORIZONTAL TABULATION",
      "f LINE FEEDf VERTICAL TABULATIONf FORM FEEDf CARRIAGE RETURNf SHIFT OUTi IN",
      "f DATA LINK ESCAPEgEVICE CONTROL ONEnTWOnTHREEnFOURf NEGATIVE ACKNOWLEDGE",
      "f SYNCHRONOUS IDLEf END OF TRANSMISSION BLOCKf CANCELf END OF MEDIUMf SUBSTITUTEf ESCAPE",
      "f FILE SEPARATORf GROUP SEPARATORf RECORD SEPARATORf UNIT SEPARATORf SPACEf DELETE",
      "aBLANK SYMBOLaOPEN BOXaSYMBOL FOR NEWLINEf DELETE FORM TWOf SUBSTITUTE FORM TWO"]),
   (0x2440,
     ["aOCR HOOKcCHAIRcFORKcINVERTED FORKcBELT BUCKLEcBOW TIEcBRANCH BANK IDENTIFICATION",
      "cAMOUNT OF CHECKcDASHcCUSTOMER ACCOUNT NUMBERcDOUBLE BACKSLASH"]),
   (0x2460,
     ["aCIRCLED DIGIT ONEhTWOhTHREEhFOURhFIVEhSIXhSEVENhEIGHThNINEeNUMBER TENh ELEVENh TWELVE",
      "iHIRTEENh FOURTEENiIFTEENh SIXTEENiEVENTEENh EIGHTEENh NINETEENh TWENTY",
      "aPARENTHESIZED DIGIT ONEkTWOkTHREEkFOURkFIVEkSIXkSEVENkEIGHTkNINEhNUMBER TENk ELEVEN",
      "k TWELVElHIRTEENk FOURTEENlIFTEENk SIXTEENlEVENTEENk EIGHTEENk NINETEENk TWENTY",
      "aDIGIT ONE FULL STOPdTWO FULL STOPdTHREE FULL STOPdFOUR FULL STOPdFIVE FULL STOP",
      "dSIX FULL STOPdSEVEN FULL STOPdEIGHT FULL STOPdNINE FULL STOPaNUMBER TEN FULL STOP",
      "d ELEVEN FULL STOPd TWELVE FULL STOPeHIRTEEN FULL STOPd FOURTEEN FULL STOP",
      "eIFTEEN FULL STOPd SIXTEEN FULL STOPeEVENTEEN FULL STOPd EIGHTEEN FULL STOP",
      "d NINETEEN FULL STOPd TWENTY FULL STOPaPARENTHESIZED LATIN SMALL LETTER Aq Bq Cq Dq Eq F",
      "q Gq Hq Iq Jq Kq Lq Mq Nq Oq Pq Qq Rq Sq Tq Uq Vq Wq Xq Yq Z",
      "aCIRCLED LATIN CAPITAL LETTER Ao Bo Co Do Eo Fo Go Ho Io Jo Ko Lo Mo No Oo Po Qo Ro So T",
      "o Uo Vo Wo Xo Yo ZhSMALL LETTER An Bn Cn Dn En Fn Gn Hn In Jn Kn Ln Mn Nn On Pn Qn Rn S",
      "n Tn Un Vn Wn Xn Yn ZeDIGIT ZEROaNEGATIVE CIRCLED NUMBER ELEVENmTWELVEmTHIRTEENmFOURTEEN",
      "mFIFTEENmSIXTEENmSEVENTEENmEIGHTEENmNINETEENmTWENTYaDOUBLE CIRCLED DIGIT ONEk TWOlHREE",
      "k FOURlIVEk SIXlEVENk EIGHTk NINEh NUMBER TENaNEGATIVE CIRCLED DIGIT ZERO",
      "aBOX DRAWINGS LIGHT HORIZONTALg HEAVY HORIZONTALg LIGHT VERTICALg HEAVY VERTICAL",
      "g LIGHT TRIPLE DASH HORIZONTALg HEAVY TRIPLE DASH HORIZONTALg LIGHT TRIPLE DASH VERTICAL",
      "g HEAVY TRIPLE DASH VERTICALg LIGHT QUADRUPLE DASH HORIZONTAL",
      "g HEAVY QUADRUPLE DASH HORIZONTALg LIGHT QUADRUPLE DASH VERTICAL",
      "g HEAVY QUADRUPLE DASH VERTICALg LIGHT DOWN AND RIGHTg DOWN LIGHT AND RIGHT HEAVY",
      "jHEAVY AND RIGHT LIGHTg HEAVY DOWN AND RIGHTg LIGHT DOWN AND LEFT",
      "g DOWN LIGHT AND LEFT HEAVYjHEAVY AND LEFT LIGHTg HEAVY DOWN AND LEFT",
      "g LIGHT UP AND RIGHTg UP LIGHT AND RIGHT HEAVYiHEAVY AND RIGHT LIGHTg HEAVY UP AND RIGHT",
      "g LIGHT UP AND LEFTg UP LIGHT AND LEFT HEAVYiHEAVY AND LEFT LIGHTg HEAVY UP AND LEFT",
      "g LIGHT VERTICAL AND RIGHTg VERTICAL LIGHT AND RIGHT HEAVY",
      "g UP HEAVY AND RIGHT DOWN LIGHTg DOWN HEAVY AND RIGHT UP LIGHT",
      "g VERTICAL HEAVY AND RIGHT LIGHTg DOWN LIGHT AND RIGHT UP HEAVY",
      "g UP LIGHT AND RIGHT DOWN HEAVYg HEAVY VERTICAL AND RIGHTg LIGHT VERTICAL AND LEFT",
      "g VERTICAL LIGHT AND LEFT HEAVYg UP HEAVY AND LEFT DOWN LIGHT",
      "g DOWN HEAVY AND LEFT UP LIGHTg VERTICAL HEAVY AND LEFT LIGHT",
      "g DOWN LIGHT AND LEFT UP HEAVYg UP LIGHT AND LEFT DOWN HEAVYg HEAVY VERTICAL AND LEFT",
      "g LIGHT DOWN AND HORIZONTALhEFT HEAVY AND RIGHT DOWN LIGHT",
      "g RIGHT HEAVY AND LEFT DOWN LIGHTg DOWN LIGHT AND HORIZONTAL HEAVY",
      "jHEAVY AND HORIZONTAL LIGHTg RIGHT LIGHT AND LEFT DOWN HEAVY",
      "g LEFT LIGHT AND RIGHT DOWN HEAVYg HEAVY DOWN AND HORIZONTALg LIGHT UP AND HORIZONTAL",
      "hEFT HEAVY AND RIGHT UP LIGHTg RIGHT HEAVY AND LEFT UP LIGHT",
      "g UP LIGHT AND HORIZONTAL HEAVYiHEAVY AND HORIZONTAL LIGHT",
      "g RIGHT LIGHT AND LEFT UP HEAVYg LEFT LIGHT AND RIGHT UP HEAVYg HEAVY UP AND HORIZONTAL",
      "g LIGHT VERTICAL AND HORIZONTALhEFT HEAVY AND RIGHT VERTICAL LIGHT",
      "g RIGHT HEAVY AND LEFT VERTICAL LIGHTg VERTICAL LIGHT AND HORIZONTAL HEAVY",
      "g UP HEAVY AND DOWN HORIZONTAL LIGHTg DOWN HEAVY AND UP HORIZONTAL LIGHT",
      "g VERTICAL HEAVY AND HORIZONTAL LIGHTg LEFT UP HEAVY AND RIGHT DOWN LIGHT",
      "g RIGHT UP HEAVY AND LEFT DOWN LIGHTg LEFT DOWN HEAVY AND RIGHT UP LIGHT",
      "g RIGHT DOWN HEAVY AND LEFT UP LIGHTg DOWN LIGHT AND UP HORIZONTAL HEAVY",
      "g UP LIGHT AND DOWN HORIZONTAL HEAVYg RIGHT LIGHT AND LEFT VERTICAL HEAVY",
      "g LEFT LIGHT AND RIGHT VERTICAL HEAVYg HEAVY VERTICAL AND HORIZONTAL",
      "g LIGHT DOUBLE DASH HORIZONTALg HEAVY DOUBLE DASH HORIZONTALg LIGHT DOUBLE DASH VERTICAL",
      "g HEAVY DOUBLE DASH VERTICALg DOUBLE HORIZONTALkVERTICALhOWN SINGLE AND RIGHT DOUBLE",
      "jDOUBLE AND RIGHT SINGLEhOUBLE DOWN AND RIGHThOWN SINGLE AND LEFT DOUBLE",
      "jDOUBLE AND LEFT SINGLEhOUBLE DOWN AND LEFTg UP SINGLE AND RIGHT DOUBLE",
      "iDOUBLE AND RIGHT SINGLEg DOUBLE UP AND RIGHTg UP SINGLE AND LEFT DOUBLE",
      "iDOUBLE AND LEFT SINGLEg DOUBLE UP AND LEFTg VERTICAL SINGLE AND RIGHT DOUBLE",
      "lDOUBLE AND RIGHT SINGLEg DOUBLE VERTICAL AND RIGHTg VERTICAL SINGLE AND LEFT DOUBLE",
      "lDOUBLE AND LEFT SINGLEg DOUBLE VERTICAL AND LEFThOWN SINGLE AND HORIZONTAL DOUBLE",
      "jDOUBLE AND HORIZONTAL SINGLEhOUBLE DOWN AND HORIZONTALg UP SINGLE AND HORIZONTAL DOUBLE",
      "iDOUBLE AND HORIZONTAL SINGLEg DOUBLE UP AND HORIZONTAL",
      "g VERTICAL SINGLE AND HORIZONTAL DOUBLElDOUBLE AND HORIZONTAL SINGLE",
      "g DOUBLE VERTICAL AND HORIZONTALg LIGHT ARC DOWN AND RIGHTqLEFTl UP AND LEFTpRIGHT",
      "j DIAGONAL UPPER RIGHT TO LOWER LEFTrLEFT TO LOWER RIGHToCROSSj LEFTj UPj RIGHTj DOWN",
      "g HEAVY LEFTj UPj RIGHTj DOWNg LIGHT LEFT AND HEAVY RIGHTj UP AND HEAVY DOWN",
      "g HEAVY LEFT AND LIGHT RIGHTj UP AND LIGHT DOWNaUPPER HALF BLOCKaLOWER ONE EIGHTH BLOCK",
      "fQUARTER BLOCKdTHREE EIGHTHS BLOCKdHALF BLOCKdFIVE EIGHTHS BLOCKdTHREE QUARTERS BLOCK",
      "dSEVEN EIGHTHS BLOCKaFULL BLOCKaLEFT SEVEN EIGHTHS BLOCKc THREE QUARTERS BLOCK",
      "c FIVE EIGHTHS BLOCKc HALF BLOCKc THREE EIGHTHS BLOCKc ONE QUARTER BLOCKe EIGHTH BLOCK",
      "aRIGHT HALF BLOCKaLIGHT SHADEaMEDIUM SHADEaDARK SHADEaUPPER ONE EIGHTH BLOCK",
      "aRIGHT ONE EIGHTH BLOCKaQUADRANT LOWER LEFTh RIGHTe UPPER LEFT",
      "jT AND LOWER LEFT AND LOWER RIGHTpRIGHTmUPPER RIGHT AND LOWER LEFTxRIGHTh RIGHT",
      "k AND LOWER LEFTrT AND LOWER RIGHTaBLACK SQUAREaWHITE SQUAREg WITH ROUNDED CORNERS",
      "g CONTAINING BLACK SMALL SQUAREaSQUARE WITH HORIZONTAL FILLgVERTICAL FILL",
      "gORTHOGONAL CROSSHATCH FILLgUPPER LEFT TO LOWER RIGHT FILLjRIGHT TO LOWER LEFT FILL",
      "gDIAGONAL CROSSHATCH FILLaBLACK SMALL SQUAREaWHITE SMALL SQUAREaBLACK RECTANGLE",
      "aWHITE RECTANGLEaBLACK VERTICAL RECTANGLEaWHITE VERTICAL RECTANGLEaBLACK PARALLELOGRAM",
      "aWHITE PARALLELOGRAMaBLACK UP-POINTING TRIANGLEaWHITE UP-POINTING TRIANGLE",
      "aBLACK UP-POINTING SMALL TRIANGLEaWHITE UP-POINTING SMALL TRIANGLE",
      "aBLACK RIGHT-POINTING TRIANGLEaWHITE RIGHT-POINTING TRIANGLE",
      "aBLACK RIGHT-POINTING SMALL TRIANGLEaWHITE RIGHT-POINTING SMALL TRIANGLE",
      "aBLACK RIGHT-POINTING POINTERaWHITE RIGHT-POINTING POINTERaBLACK DOWN-POINTING TRIANGLE",
      "aWHITE DOWN-POINTING TRIANGLEaBLACK DOWN-POINTING SMALL TRIANGLE",
      "aWHITE DOWN-POINTING SMALL TRIANGLEaBLACK LEFT-POINTING TRIANGLE",
      "aWHITE LEFT-POINTING TRIANGLEaBLACK LEFT-POINTING SMALL TRIANGLE",
      "aWHITE LEFT-POINTING SMALL TRIANGLEaBLACK LEFT-POINTING POINTER",
      "aWHITE LEFT-POINTING POINTERaBLACK DIAMONDaWHITE DIAMOND",
      "gD CONTAINING BLACK SMALL DIAMONDaFISHEYEaLOZENGEaWHITE CIRCLEaDOTTED CIRCLE",
      "aCIRCLE WITH VERTICAL FILLaBULLSEYEaBLACK CIRCLEaCIRCLE WITH LEFT HALF BLACK",
      "gRIGHT HALF BLACKgLOWER HALF BLACKgUPPER HALF BLACKjRIGHT QUADRANT BLACK",
      "gALL BUT UPPER LEFT QUADRANT BLACKaLEFT HALF BLACK CIRCLEaRIGHT HALF BLACK CIRCLE",
      "aINVERSE BULLETeWHITE CIRCLEaUPPER HALF INVERSE WHITE CIRCLE",
      "aLOWER HALF INVERSE WHITE CIRCLEaUPPER LEFT QUADRANT CIRCULAR ARC",
      "dRIGHT QUADRANT CIRCULAR ARCaLOWER RIGHT QUADRANT CIRCULAR ARC",
      "dLEFT QUADRANT CIRCULAR ARCaUPPER HALF CIRCLEaLOWER HALF CIRCLE",
      "aBLACK LOWER RIGHT TRIANGLEgLEFT TRIANGLEdUPPER LEFT TRIANGLEgRIGHT TRIANGLE",
      "aWHITE BULLETaSQUARE WITH LEFT HALF BLACKgRIGHT HALF BLACK",
      "gUPPER LEFT DIAGONAL HALF BLACKgLOWER RIGHT DIAGONAL HALF BLACK",
      "aWHITE SQUARE WITH VERTICAL BISECTING LINEdUP-POINTING TRIANGLE WITH DOT",
      "aUP-POINTING TRIANGLE WITH LEFT HALF BLACKnRIGHT HALF BLACKaLARGE CIRCLE",
      "aWHITE SQUARE WITH UPPER LEFT QUADRANTjLOWER LEFT QUADRANTmRIGHT QUADRANT",
      "jUPPER RIGHT QUADRANTdCIRCLE WITH UPPER LEFT QUADRANTjLOWER LEFT QUADRANTmRIGHT QUADRANT",
      "jUPPER RIGHT QUADRANTaUPPER LEFT TRIANGLEdRIGHT TRIANGLEaLOWER LEFT TRIANGLE",
      "aWHITE MEDIUM SQUAREaBLACK MEDIUM SQUAREaWHITE MEDIUM SMALL SQUARE",
      "aBLACK MEDIUM SMALL SQUAREaLOWER RIGHT TRIANGLEaBLACK SUN WITH RAYSaCLOUDaUMBRELLA",
      "aSNOWMANaCOMETaBLACK STARaWHITE STARaLIGHTNINGaTHUNDERSTORMaSUNaASCENDING NODE",
      "aDESCENDING NODEaCONJUNCTIONaOPPOSITIONaBLACK TELEPHONEaWHITE TELEPHONEaBALLOT BOX",
      "f WITH CHECKiXaSALTIREaUMBRELLA WITH RAIN DROPSaHOT BEVERAGEaWHITE SHOGI PIECE",
      "aBLACK SHOGI PIECEaSHAMROCKaREVERSED ROTATED FLORAL HEART BULLET",
      "aBLACK LEFT POINTING INDEXdRIGHT POINTING INDEXaWHITE LEFT POINTING INDEX",
      "dUP POINTING INDEXdRIGHT POINTING INDEXdDOWN POINTING INDEXaSKULL AND CROSSBONES",
      "aCAUTION SIGNaRADIOACTIVE SIGNaBIOHAZARD SIGNaCADUCEUSaANKHaORTHODOX CROSSaCHI RHO",
      "aCROSS OF LORRAINEe JERUSALEMaSTAR AND CRESCENTaFARSI SYMBOLaADI SHAKTI",
      "aHAMMER AND SICKLEaPEACE SYMBOLaYIN YANGaTRIGRAM FOR HEAVENgLAKEgFIREgTHUNDERgWINDgWATER",
      "gMOUNTAINgEARTHaWHEEL OF DHARMAbITE FROWNING FACEdSMILING FACEaBLACK SMILING FACE",
      "aWHITE SUN WITH RAYSaFIRST QUARTER MOONaLAST QUARTER MOONaMERCURYaFEMALE SIGNaEARTH",
      "aMALE SIGNaJUPITERaSATURNaURANUSaNEPTUNEaPLUTOaARIESaTAURUSaGEMINIaCANCERaLEOaVIRGO",
      "aLIBRAaSCORPIUSaSAGITTARIUSaCAPRICORNaAQUARIUSaPISCESaWHITE CHESS KINGgQUEENgROOKgBISHOP",
      "gKNIGHTgPAWNaBLACK CHESS KINGgQUEENgROOKgBISHOPgKNIGHTgPAWNdSPADE SUITaWHITE HEART SUIT",
      "dDIAMOND SUITaBLACK CLUB SUITaWHITE SPADE SUITaBLACK HEART SUITdDIAMOND SUIT",
      "aWHITE CLUB SUITaHOT SPRINGSaQUARTER NOTEaEIGHTH NOTEaBEAMED EIGHTH NOTES",
      "d SIXTEENTH NOTESaMUSIC FLAT SIGNdNATURAL SIGNdSHARP SIGNaWEST SYRIAC CROSS",
      "aEAST SYRIAC CROSSaUNIVERSAL RECYCLING SYMBOLaRECYCLING SYMBOL FOR TYPE-1 PLASTICS",
      "n2 PLASTICSn3 PLASTICSn4 PLASTICSn5 PLASTICSn6 PLASTICSn7 PLASTICSk GENERIC MATERIALS",
      "aBLACK UNIVERSAL RECYCLING SYMBOLaRECYCLED PAPER SYMBOLaPARTIALLY-RECYCLED PAPER SYMBOL",
      "aPERMANENT PAPER SIGNaWHEELCHAIR SYMBOLaDIE FACE-1e-2e-3e-4e-5e-6",
      "aWHITE CIRCLE WITH DOT RIGHTjTWO DOTSaBLACK CIRCLE WITH WHITE DOT RIGHTjTWO WHITE DOTS",
      "aMONOGRAM FOR YANGhINaDIGRAM FOR GREATER YANGf LESSER YINjYANGf GREATER YINaWHITE FLAG",
      "aBLACK FLAGaHAMMER AND PICKaANCHORaCROSSED SWORDSaSTAFF OF AESCULAPIUSaSCALESaALEMBIC",
      "aFLOWERaGEARaSTAFF OF HERMESaATOM SYMBOLaFLEUR-DE-LISaOUTLINED WHITE STAR",
      "aTHREE LINES CONVERGING RIGHTl LEFTaWARNING SIGNaHIGH VOLTAGE SIGNaDOUBLED FEMALE SIGN",
      "eMALE SIGNaINTERLOCKED FEMALE AND MALE SIGNaMALE AND FEMALE SIGNc WITH STROKE SIGN",
      "i AND MALE AND FEMALE SIGNaVERTICAL MALE WITH STROKE SIGN",
      "aHORIZONTAL MALE WITH STROKE SIGNaMEDIUM WHITE CIRCLEd BLACK CIRCLEd SMALL WHITE CIRCLE",
      "aMARRIAGE SYMBOLaDIVORCE SYMBOLaUNMARRIED PARTNERSHIP SYMBOLaCOFFINaFUNERAL URNaNEUTER",
      "aCERESaPALLASaJUNOaVESTAaCHIRONaBLACK MOON LILITHaSEXTILEbMISEXTILEaQUINCUNX",
      "aSESQUIQUADRATEaSOCCER BALLaBASEBALLaSQUARED KEYaWHITE DRAUGHTS MANh KING",
      "aBLACK DRAUGHTS MANh KINGaSNOWMAN WITHOUT SNOWaSUN BEHIND CLOUDaRAINaBLACK SNOWMAN",
      "aTHUNDER CLOUD AND RAINaTURNED WHITE SHOGI PIECEd BLACK SHOGI PIECE",
      "aWHITE DIAMOND IN SQUAREaCROSSING LANESaDISABLED CARaOPHIUCHUSaPICKaCAR SLIDING",
      "aHELMET WITH WHITE CROSSaCIRCLED CROSSING LANESaCHAINSaNO ENTRY",
      "aALTERNATE ONE-WAY LEFT WAY TRAFFICaBLACK TWO-WAY LEFT WAY TRAFFIC",
      "aWHITE TWO-WAY LEFT WAY TRAFFICaBLACK LEFT LANE MERGEaWHITE LEFT LANE MERGE",
      "aDRIVE SLOW SIGNaHEAVY WHITE DOWN-POINTING TRIANGLEaLEFT CLOSED ENTRYaSQUARED SALTIRE",
      "aFALLING DIAGONAL IN WHITE CIRCLE IN BLACK SQUAREaBLACK TRUCKaRESTRICTED LEFT ENTRY-1l2",
      "aASTRONOMICAL SYMBOL FOR URANUSaHEAVY CIRCLE WITH STROKE AND TWO DOTS ABOVEaPENTAGRAM",
      "aRIGHT-HANDED INTERLACED PENTAGRAMaLEFT-HANDED INTERLACED PENTAGRAMaINVERTED PENTAGRAM",
      "aBLACK CROSS ON SHIELDaSHINTO SHRINEaCHURCHaCASTLEaHISTORIC SITEaGEAR WITHOUT HUB",
      "eH HANDLESaMAP SYMBOL FOR LIGHTHOUSEaMOUNTAINaUMBRELLA ON GROUNDaFOUNTAINaFLAG IN HOLE",
      "aFERRYaSAILBOATaSQUARE FOUR CORNERSaSKIERaICE SKATEaPERSON WITH BALLaTENT",
      "aJAPANESE BANK SYMBOLaHEADSTONE GRAVEYARD SYMBOLaFUEL PUMPaCUP ON BLACK SQUARE",
      "aWHITE FLAG WITH HORIZONTAL MIDDLE BLACK STRIPEaBLACK SAFETY SCISSORS",
      "aUPPER BLADE SCISSORSaBLACK SCISSORSaLOWER BLADE SCISSORSaWHITE SCISSORS",
      "dHEAVY CHECK MARKaTELEPHONE LOCATION SIGNaTAPE DRIVEaAIRPLANEaENVELOPEaRAISED FISTd HAND",
      "aVICTORY HANDaWRITING HANDaLOWER RIGHT PENCILaPENCILaUPPER RIGHT PENCILaWHITE NIB",
      "aBLACK NIBaCHECK MARKaHEAVY CHECK MARKaMULTIPLICATION XaHEAVY MULTIPLICATION XaBALLOT X",
      "aHEAVY BALLOT XaOUTLINED GREEK CROSSaHEAVY GREEK CROSSaOPEN CENTRE CROSS",
      "aHEAVY OPEN CENTRE CROSSaLATIN CROSSaSHADOWED WHITE LATIN CROSSaOUTLINED LATIN CROSS",
      "aMALTESE CROSSaSTAR OF DAVIDaFOUR TEARDROP-SPOKED ASTERISKc BALLOON-SPOKED ASTERISK",
      "aHEAVY FOUR BALLOON-SPOKED ASTERISKaFOUR CLUB-SPOKED ASTERISKaBLACK FOUR POINTED STAR",
      "aWHITE FOUR POINTED STARaSPARKLESaSTRESS OUTLINED WHITE STARaCIRCLED WHITE STAR",
      "aOPEN CENTRE BLACK STARaBLACK CENTRE WHITE STARaOUTLINED BLACK STAR",
      "aHEAVY OUTLINED BLACK STARaPINWHEEL STARaSHADOWED WHITE STARaHEAVY ASTERISK",
      "aOPEN CENTRE ASTERISKaEIGHT SPOKED ASTERISKdPOINTED BLACK STARhPINWHEEL STAR",
      "aSIX POINTED BLACK STARaEIGHT POINTED RECTILINEAR BLACK STAR",
      "aHEAVY EIGHT POINTED RECTILINEAR BLACK STARaTWELVE POINTED BLACK STAR",
      "aSIXTEEN POINTED ASTERISKaTEARDROP-SPOKED ASTERISKaOPEN CENTRE TEARDROP-SPOKED ASTERISK",
      "aHEAVY TEARDROP-SPOKED ASTERISKaSIX PETALLED BLACK AND WHITE FLORETTEaBLACK FLORETTE",
      "aWHITE FLORETTEaEIGHT PETALLED OUTLINED BLACK FLORETTE",
      "aCIRCLED OPEN CENTRE EIGHT POINTED STARaHEAVY TEARDROP-SPOKED PINWHEEL ASTERISK",
      "aSNOWFLAKEaTIGHT TRIFOLIATE SNOWFLAKEaHEAVY CHEVRON SNOWFLAKEaSPARKLEaHEAVY SPARKLE",
      "aBALLOON-SPOKED ASTERISKaEIGHT TEARDROP-SPOKED PROPELLER ASTERISK",
      "aHEAVY EIGHT TEARDROP-SPOKED PROPELLER ASTERISKaCROSS MARKaSHADOWED WHITE CIRCLE",
      "aNEGATIVE SQUARED CROSS MARKaLOWER RIGHT DROP-SHADOWED WHITE SQUARE",
      "aUPPER RIGHT DROP-SHADOWED WHITE SQUAREaLOWER RIGHT SHADOWED WHITE SQUARE",
      "aUPPER RIGHT SHADOWED WHITE SQUAREaBLACK QUESTION MARK ORNAMENT",
      "aWHITE QUESTION MARK ORNAMENTdEXCLAMATION MARK ORNAMENTaBLACK DIAMOND MINUS WHITE X",
      "aHEAVY EXCLAMATION MARK SYMBOLaLIGHT VERTICAL BARaMEDIUM VERTICAL BARaHEAVY VERTICAL BAR",
      "dSINGLE TURNED COMMA QUOTATION MARK ORNAMENTg COMMA QUOTATION MARK ORNAMENT",
      "dDOUBLE TURNED COMMA QUOTATION MARK ORNAMENTg COMMA QUOTATION MARK ORNAMENT",
      "dLOW SINGLE COMMA QUOTATION MARK ORNAMENTfDOUBLE COMMA QUOTATION MARK ORNAMENT",
      "aCURVED STEM PARAGRAPH SIGN ORNAMENTaHEAVY EXCLAMATION MARK ORNAMENT",
      "dHEART EXCLAMATION MARK ORNAMENTdBLACK HEARTaROTATED HEAVY BLACK HEART BULLET",
      "aFLORAL HEARTaROTATED FLORAL HEART BULLETaMEDIUM LEFT PARENTHESIS ORNAMENT",
      "d RIGHT PARENTHESIS ORNAMENTd FLATTENED LEFT PARENTHESIS ORNAMENT",
      "i RIGHT PARENTHESIS ORNAMENTd LEFT-POINTING ANGLE BRACKET ORNAMENT",
      "d RIGHT-POINTING ANGLE BRACKET ORNAMENT",
      "aHEAVY LEFT-POINTING ANGLE QUOTATION MARK ORNAMENT",
      "dRIGHT-POINTING ANGLE QUOTATION MARK ORNAMENTdLEFT-POINTING ANGLE BRACKET ORNAMENT",
      "dRIGHT-POINTING ANGLE BRACKET ORNAMENTaLIGHT LEFT TORTOISE SHELL BRACKET ORNAMENT",
      "dRIGHT TORTOISE SHELL BRACKET ORNAMENTaMEDIUM LEFT CURLY BRACKET ORNAMENT",
      "d RIGHT CURLY BRACKET ORNAMENTaDINGBAT NEGATIVE CIRCLED DIGIT ONEp TWOqHREEp FOURqIVE",
      "p SIXqEVENp EIGHTp NINEm NUMBER TENeCIRCLED SANS-SERIF DIGIT ONEq TWOrHREEq FOURrIVE",
      "q SIXrEVENq EIGHTq NINEn NUMBER TENeNEGATIVE CIRCLED SANS-SERIF DIGIT ONEvTWOvTHREEvFOUR",
      "vFIVEvSIXvSEVENvEIGHTvNINEsNUMBER TENaHEAVY WIDE-HEADED RIGHTWARDS ARROWdPLUS SIGN",
      "dMINUS SIGNdDIVISION SIGNdSOUTH EAST ARROWdRIGHTWARDS ARROWdNORTH EAST ARROW",
      "aDRAFTING POINT RIGHTWARDS ARROWaHEAVY ROUND-TIPPED RIGHTWARDS ARROW",
      "aTRIANGLE-HEADED RIGHTWARDS ARROWaHEAVY TRIANGLE-HEADED RIGHTWARDS ARROW",
      "aDASHED TRIANGLE-HEADED RIGHTWARDS ARROWaHEAVY DASHED TRIANGLE-HEADED RIGHTWARDS ARROW",
      "aBLACK RIGHTWARDS ARROWaTHREE-D TOP-LIGHTED RIGHTWARDS ARROWHEAD",
      "eBOTTOM-LIGHTED RIGHTWARDS ARROWHEADaBLACK RIGHTWARDS ARROWHEAD",
      "aHEAVY BLACK CURVED DOWNWARDS AND RIGHTWARDS ARROWj UPWARDS AND RIGHTWARDS ARROW",
      "aSQUAT BLACK RIGHTWARDS ARROWaHEAVY CONCAVE-POINTED BLACK RIGHTWARDS ARROW",
      "aRIGHT-SHADED WHITE RIGHTWARDS ARROWaLEFT-SHADED WHITE RIGHTWARDS ARROW",
      "aBACK-TILTED SHADOWED WHITE RIGHTWARDS ARROW",
      "aFRONT-TILTED SHADOWED WHITE RIGHTWARDS ARROW",
      "aHEAVY LOWER RIGHT-SHADOWED WHITE RIGHTWARDS ARROW",
      "dUPPER RIGHT-SHADOWED WHITE RIGHTWARDS ARROW",
      "aNOTCHED LOWER RIGHT-SHADOWED WHITE RIGHTWARDS ARROWaCURLY LOOP",
      "aNOTCHED UPPER RIGHT-SHADOWED WHITE RIGHTWARDS ARROW",
      "aCIRCLED HEAVY WHITE RIGHTWARDS ARROWaWHITE-FEATHERED RIGHTWARDS ARROW",
      "aBLACK-FEATHERED SOUTH EAST ARROWiRIGHTWARDS ARROWiNORTH EAST ARROW",
      "aHEAVY BLACK-FEATHERED SOUTH EAST ARROWlRIGHTWARDS ARROWlNORTH EAST ARROW",
      "aTEARDROP-BARBED RIGHTWARDS ARROWaHEAVY TEARDROP-SHANKED RIGHTWARDS ARROW",
      "aWEDGE-TAILED RIGHTWARDS ARROWaHEAVY WEDGE-TAILED RIGHTWARDS ARROW",
      "aOPEN-OUTLINED RIGHTWARDS ARROWaDOUBLE CURLY LOOPaTHREE DIMENSIONAL ANGLE",
      "aWHITE TRIANGLE CONTAINING SMALL WHITE TRIANGLEaPERPENDICULARaOPEN SUBSETdUPERSET",
      "aLEFT S-SHAPED BAG DELIMITERaRIGHT S-SHAPED BAG DELIMITERaOR WITH DOT INSIDE",
      "aREVERSE SOLIDUS PRECEDING SUBSETaSUPERSET PRECEDING SOLIDUS",
      "aVERTICAL BAR WITH HORIZONTAL STROKEaMATHEMATICAL RISING DIAGONALaLONG DIVISION",
      "aMATHEMATICAL FALLING DIAGONALaSQUARED LOGICAL ANDiORaWHITE DIAMOND WITH CENTRED DOT",
      "aAND WITH DOTaELEMENT OF OPENING UPWARDSaLOWER RIGHT CORNER WITH DOT",
      "aUPPER LEFT CORNER WITH DOTaLEFT OUTER JOINaRIGHT OUTER JOINaFULL OUTER JOIN",
      "aLARGE UP TACKdDOWN TACKaLEFT AND RIGHT DOUBLE TURNSTILEh TACKc MULTIMAPaLONG RIGHT TACK",
      "c LEFT TACKaUP TACK WITH CIRCLE ABOVEaLOZENGE DIVIDED BY HORIZONTAL RULE",
      "aWHITE CONCAVE-SIDED DIAMONDnD WITH LEFTWARDS TICKq RIGHTWARDS TICK",
      "dSQUARE WITH LEFTWARDS TICKjRIGHTWARDS TICKaMATHEMATICAL LEFT WHITE SQUARE BRACKET",
      "g RIGHT WHITE SQUARE BRACKETg LEFT ANGLE BRACKETg RIGHT ANGLE BRACKET",
      "g LEFT DOUBLE ANGLE BRACKETg RIGHT DOUBLE ANGLE BRACKET",
      "g LEFT WHITE TORTOISE SHELL BRACKETg RIGHT WHITE TORTOISE SHELL BRACKET",
      "g LEFT FLATTENED PARENTHESISg RIGHT FLATTENED PARENTHESISaUPWARDS QUADRUPLE ARROW",
      "aDOWNWARDS QUADRUPLE ARROWaANTICLOCKWISE GAPPED CIRCLE ARROW",
      "aCLOCKWISE GAPPED CIRCLE ARROWaRIGHT ARROW WITH CIRCLED PLUSaLONG LEFTWARDS ARROW",
      "c RIGHTWARDS ARROWc LEFT RIGHT ARROWeTWARDS DOUBLE ARROWc RIGHTWARDS DOUBLE ARROW",
      "c LEFT RIGHT DOUBLE ARROWeTWARDS ARROW FROM BARc RIGHTWARDS ARROW FROM BAR",
      "c LEFTWARDS DOUBLE ARROW FROM BARc RIGHTWARDS DOUBLE ARROW FROM BARiSQUIGGLE ARROW"])]

end TreeQuote.CharacterName

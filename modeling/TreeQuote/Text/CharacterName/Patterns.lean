/-
TreeQuote/Text/CharacterName/Patterns.lean

The names of Braille patterns, more arrows and operators, and old Slavic letters, in runs of code points with
names.  How a run is written is said where runs are read.
-/

namespace TreeQuote.CharacterName

/-- Runs of names of Braille patterns, more arrows and operators, and old Slavic letters. -/
def patterns : List (Nat × List String) :=
  [(0x2800,
     ["aBRAILLE PATTERN BLANKiDOTS-1k-2k-12k-3k-13k-23k-123k-4k-14k-24k-124k-34k-134k-234k-1234",
      "k-5k-15k-25k-125k-35k-135k-235k-1235k-45k-145k-245k-1245k-345k-1345k-2345k-12345k-6k-16",
      "k-26k-126k-36k-136k-236k-1236k-46k-146k-246k-1246k-346k-1346k-2346k-12346k-56k-156k-256",
      "k-1256k-356k-1356k-2356k-12356k-456k-1456k-2456k-12456k-3456k-13456k-23456k-123456k-7",
      "k-17k-27k-127k-37k-137k-237k-1237k-47k-147k-247k-1247k-347k-1347k-2347k-12347k-57k-157",
      "k-257k-1257k-357k-1357k-2357k-12357k-457k-1457k-2457k-12457k-3457k-13457k-23457k-123457",
      "k-67k-167k-267k-1267k-367k-1367k-2367k-12367k-467k-1467k-2467k-12467k-3467k-13467k-23467",
      "k-123467k-567k-1567k-2567k-12567k-3567k-13567k-23567k-123567k-4567k-14567k-24567k-124567",
      "k-34567k-134567k-234567k-1234567k-8k-18k-28k-128k-38k-138k-238k-1238k-48k-148k-248k-1248",
      "k-348k-1348k-2348k-12348k-58k-158k-258k-1258k-358k-1358k-2358k-12358k-458k-1458k-2458",
      "k-12458k-3458k-13458k-23458k-123458k-68k-168k-268k-1268k-368k-1368k-2368k-12368k-468",
      "k-1468k-2468k-12468k-3468k-13468k-23468k-123468k-568k-1568k-2568k-12568k-3568k-13568",
      "k-23568k-123568k-4568k-14568k-24568k-124568k-34568k-134568k-234568k-1234568k-78k-178",
      "k-278k-1278k-378k-1378k-2378k-12378k-478k-1478k-2478k-12478k-3478k-13478k-23478k-123478",
      "k-578k-1578k-2578k-12578k-3578k-13578k-23578k-123578k-4578k-14578k-24578k-124578k-34578",
      "k-134578k-234578k-1234578k-678k-1678k-2678k-12678k-3678k-13678k-23678k-123678k-4678",
      "k-14678k-24678k-124678k-34678k-134678k-234678k-1234678k-5678k-15678k-25678k-125678",
      "k-35678k-135678k-235678k-1235678k-45678k-145678k-245678k-1245678k-345678k-1345678",
      "k-2345678k-12345678aRIGHTWARDS TWO-HEADED ARROW WITH VERTICAL STROKE",
      "q DOUBLE VERTICAL STROKEaLEFTWARDS DOUBLE ARROW WITH VERTICAL STROKE",
      "aRIGHTWARDS DOUBLE ARROW WITH VERTICAL STROKE",
      "aLEFT RIGHT DOUBLE ARROW WITH VERTICAL STROKEaRIGHTWARDS TWO-HEADED ARROW FROM BAR",
      "aLEFTWARDS DOUBLE ARROW FROM BARaRIGHTWARDS DOUBLE ARROW FROM BAR",
      "aDOWNWARDS ARROW WITH HORIZONTAL STROKEaUPWARDS ARROW WITH HORIZONTAL STROKE",
      "eTRIPLE ARROWaDOWNWARDS TRIPLE ARROWaLEFTWARDS DOUBLE DASH ARROW",
      "aRIGHTWARDS DOUBLE DASH ARROWaLEFTWARDS TRIPLE DASH ARROWaRIGHTWARDS TRIPLE DASH ARROW",
      "gWO-HEADED TRIPLE DASH ARROWf ARROW WITH DOTTED STEMaUPWARDS ARROW TO BAR",
      "aDOWNWARDS ARROW TO BARaRIGHTWARDS ARROW WITH TAIL WITH VERTICAL STROKE",
      "qDOUBLE VERTICAL STROKEf TWO-HEADED ARROW WITH TAILsL WITH VERTICAL STROKE",
      "v DOUBLE VERTICAL STROKEaLEFTWARDS ARROW-TAILaRIGHTWARDS ARROW-TAIL",
      "aLEFTWARDS DOUBLE ARROW-TAILaRIGHTWARDS DOUBLE ARROW-TAIL",
      "aLEFTWARDS ARROW TO BLACK DIAMONDaRIGHTWARDS ARROW TO BLACK DIAMOND",
      "aLEFTWARDS ARROW FROM BAR TO BLACK DIAMONDaRIGHTWARDS ARROW FROM BAR TO BLACK DIAMOND",
      "aNORTH WEST AND SOUTH EAST ARROWdEAST AND SOUTH WEST ARROWdWEST ARROW WITH HOOK",
      "dEAST ARROW WITH HOOKaSOUTH EAST ARROW WITH HOOKdWEST ARROW WITH HOOK",
      "aNORTH WEST ARROW AND NORTH EAST ARROWdEAST ARROW AND SOUTH EAST ARROW",
      "aSOUTH EAST ARROW AND SOUTH WEST ARROWdWEST ARROW AND NORTH WEST ARROW",
      "aRISING DIAGONAL CROSSING FALLING DIAGONALaFALLING DIAGONAL CROSSING RISING DIAGONAL",
      "aSOUTH EAST ARROW CROSSING NORTH EAST ARROWaNORTH EAST ARROW CROSSING SOUTH EAST ARROW",
      "aFALLING DIAGONAL CROSSING NORTH EAST ARROWaRISING DIAGONAL CROSSING SOUTH EAST ARROW",
      "aNORTH EAST ARROW CROSSING NORTH WEST ARROWdWEST ARROW CROSSING NORTH EAST ARROW",
      "aWAVE ARROW POINTING DIRECTLY RIGHTaARROW POINTING RIGHTWARDS THEN CURVING UPWARDS",
      "t DOWNWARDSh DOWNWARDS THEN CURVING LEFTWARDStRIGHTWARDSaRIGHT-SIDE ARC CLOCKWISE ARROW",
      "aLEFT-SIDE ARC ANTICLOCKWISE ARROWaTOP ARC ANTICLOCKWISE ARROW",
      "aBOTTOM ARC ANTICLOCKWISE ARROWaTOP ARC CLOCKWISE ARROW WITH MINUS",
      "eANTICLOCKWISE ARROW WITH PLUSaLOWER RIGHT SEMICIRCULAR CLOCKWISE ARROW",
      "dLEFT SEMICIRCULAR ANTICLOCKWISE ARROWaANTICLOCKWISE CLOSED CIRCLE ARROW",
      "aCLOCKWISE CLOSED CIRCLE ARROWaRIGHTWARDS ARROW ABOVE SHORT LEFTWARDS ARROW",
      "aLEFTWARDS ARROW ABOVE SHORT RIGHTWARDS ARROW",
      "aSHORT RIGHTWARDS ARROW ABOVE LEFTWARDS ARROWaRIGHTWARDS ARROW WITH PLUS BELOW",
      "aLEFTWARDS ARROW WITH PLUS BELOWaRIGHTWARDS ARROW THROUGH X",
      "aLEFT RIGHT ARROW THROUGH SMALL CIRCLEaUPWARDS TWO-HEADED ARROW FROM SMALL CIRCLE",
      "aLEFT BARB UP RIGHT BARB DOWN HARPOONfDOWN RIGHT BARB UP HARPOON",
      "aUP BARB RIGHT DOWN BARB LEFT HARPOONeLEFT DOWN BARB RIGHT HARPOON",
      "aLEFT BARB UP RIGHT BARB UP HARPOONaUP BARB RIGHT DOWN BARB RIGHT HARPOON",
      "aLEFT BARB DOWN RIGHT BARB DOWN HARPOONaUP BARB LEFT DOWN BARB LEFT HARPOON",
      "aLEFTWARDS HARPOON WITH BARB UP TO BARaRIGHTWARDS HARPOON WITH BARB UP TO BAR",
      "aUPWARDS HARPOON WITH BARB RIGHT TO BARaDOWNWARDS HARPOON WITH BARB RIGHT TO BAR",
      "aLEFTWARDS HARPOON WITH BARB DOWN TO BARaRIGHTWARDS HARPOON WITH BARB DOWN TO BAR",
      "aUPWARDS HARPOON WITH BARB LEFT TO BARaDOWNWARDS HARPOON WITH BARB LEFT TO BAR",
      "aLEFTWARDS HARPOON WITH BARB UP FROM BARaRIGHTWARDS HARPOON WITH BARB UP FROM BAR",
      "aUPWARDS HARPOON WITH BARB RIGHT FROM BARaDOWNWARDS HARPOON WITH BARB RIGHT FROM BAR",
      "aLEFTWARDS HARPOON WITH BARB DOWN FROM BARaRIGHTWARDS HARPOON WITH BARB DOWN FROM BAR",
      "aUPWARDS HARPOON WITH BARB LEFT FROM BARaDOWNWARDS HARPOON WITH BARB LEFT FROM BAR",
      "aLEFTWARDS HARPOON WITH BARB UP ABOVE LEFTWARDS HARPOON WITH BARB DOWN",
      "aUPWARDS HARPOON WITH BARB LEFT BESIDE UPWARDS HARPOON WITH BARB RIGHT",
      "aRIGHTWARDS HARPOON WITH BARB UP ABOVE RIGHTWARDS HARPOON WITH BARB DOWN",
      "aDOWNWARDS HARPOON WITH BARB LEFT BESIDE DOWNWARDS HARPOON WITH BARB RIGHT",
      "aLEFTWARDS HARPOON WITH BARB UP ABOVE RIGHTWARDS HARPOON WITH BARB UP",
      "oDOWN ABOVE RIGHTWARDS HARPOON WITH BARB DOWN",
      "aRIGHTWARDS HARPOON WITH BARB UP ABOVE LEFTWARDS HARPOON WITH BARB UP",
      "o DOWN ABOVE LEFTWARDS HARPOON WITH BARB DOWN",
      "aLEFTWARDS HARPOON WITH BARB UP ABOVE LONG DASHoDOWN BELOW LONG DASH",
      "aRIGHTWARDS HARPOON WITH BARB UP ABOVE LONG DASHo DOWN BELOW LONG DASH",
      "aUPWARDS HARPOON WITH BARB LEFT BESIDE DOWNWARDS HARPOON WITH BARB RIGHT",
      "aDOWNWARDS HARPOON WITH BARB LEFT BESIDE UPWARDS HARPOON WITH BARB RIGHT",
      "aRIGHT DOUBLE ARROW WITH ROUNDED HEADaEQUALS SIGN ABOVE RIGHTWARDS ARROW",
      "aTILDE OPERATOR ABOVE RIGHTWARDS ARROWaLEFTWARDS ARROW ABOVE TILDE OPERATOR",
      "aRIGHTWARDS ARROW ABOVE TILDE OPERATORl ALMOST EQUAL TOaLESS-THAN ABOVE LEFTWARDS ARROW",
      "bFTWARDS ARROW THROUGH LESS-THANaGREATER-THAN ABOVE RIGHTWARDS ARROW",
      "aSUBSET ABOVE RIGHTWARDS ARROWaLEFTWARDS ARROW THROUGH SUBSET",
      "aSUPERSET ABOVE LEFTWARDS ARROWaLEFT FISH TAILaRIGHT FISH TAILaUP FISH TAIL",
      "aDOWN FISH TAILaTRIPLE VERTICAL BAR DELIMITERaZ NOTATION SPOTf TYPE COLON",
      "aLEFT WHITE CURLY BRACKETaRIGHT WHITE CURLY BRACKETaLEFT WHITE PARENTHESIS",
      "aRIGHT WHITE PARENTHESISaZ NOTATION LEFT IMAGE BRACKETf RIGHT IMAGE BRACKET",
      "f LEFT BINDING BRACKETf RIGHT BINDING BRACKETaLEFT SQUARE BRACKET WITH UNDERBAR",
      "aRIGHT SQUARE BRACKET WITH UNDERBARaLEFT SQUARE BRACKET WITH TICK IN TOP CORNER",
      "aRIGHT SQUARE BRACKET WITH TICK IN BOTTOM CORNER",
      "aLEFT SQUARE BRACKET WITH TICK IN BOTTOM CORNER",
      "aRIGHT SQUARE BRACKET WITH TICK IN TOP CORNERaLEFT ANGLE BRACKET WITH DOT",
      "aRIGHT ANGLE BRACKET WITH DOTaLEFT ARC LESS-THAN BRACKETaRIGHT ARC GREATER-THAN BRACKET",
      "aDOUBLE LEFT ARC GREATER-THAN BRACKETd RIGHT ARC LESS-THAN BRACKET",
      "aLEFT BLACK TORTOISE SHELL BRACKETaRIGHT BLACK TORTOISE SHELL BRACKETaDOTTED FENCE",
      "aVERTICAL ZIGZAG LINEaMEASURED ANGLE OPENING LEFTaRIGHT ANGLE VARIANT WITH SQUARE",
      "aMEASURED RIGHT ANGLE WITH DOTaANGLE WITH S INSIDEaACUTE ANGLE",
      "aSPHERICAL ANGLE OPENING LEFTmUPaTURNED ANGLEaREVERSED ANGLEaANGLE WITH UNDERBAR",
      "aREVERSED ANGLE WITH UNDERBARaOBLIQUE ANGLE OPENING UPlDOWN",
      "aMEASURED ANGLE WITH OPEN ARM ENDING IN ARROW POINTING UP AND RIGHTzING UP AND LEFT",
      "zING DOWN AND RIGHTzING DOWN AND LEFTzING RIGHT AND UPzING LEFT AND UP",
      "zING RIGHT AND DOWNzING LEFT AND DOWNaREVERSED EMPTY SETaEMPTY SET WITH OVERBAR",
      "h SMALL CIRCLE ABOVEh RIGHT ARROW ABOVEh LEFT ARROW ABOVEaCIRCLE WITH HORIZONTAL BAR",
      "dD VERTICAL BARePARALLELeREVERSE SOLIDUSePERPENDICULAR",
      "d DIVIDED BY HORIZONTAL BAR AND TOP HALF DIVIDED BY VERTICAL BARd WITH SUPERIMPOSED X",
      "dD ANTICLOCKWISE-ROTATED DIVISION SIGNaUP ARROW THROUGH CIRCLEaCIRCLED WHITE BULLET",
      "eBULLETeLESS-THANeGREATER-THANd WITH SMALL CIRCLE TO THE RIGHT",
      "gTWO HORIZONTAL STROKES TO THE RIGHTaSQUARED RISING DIAGONAL SLASH",
      "eFALLING DIAGONAL SLASHeASTERISKeSMALL CIRCLEeSQUAREaTWO JOINED SQUARES",
      "aTRIANGLE WITH DOT ABOVEhUNDERBARaS IN TRIANGLEaTRIANGLE WITH SERIFS AT BOTTOM",
      "aRIGHT TRIANGLE ABOVE LEFT TRIANGLEaLEFT TRIANGLE BESIDE VERTICAL BAR",
      "aVERTICAL BAR BESIDE RIGHT TRIANGLEaBOWTIE WITH LEFT HALF BLACKgRIGHT HALF BLACK",
      "aBLACK BOWTIEaTIMES WITH LEFT HALF BLACKf RIGHT HALF BLACKaWHITE HOURGLASS",
      "aBLACK HOURGLASSaLEFT WIGGLY FENCEaRIGHT WIGGLY FENCEaLEFT DOUBLE WIGGLY FENCE",
      "aRIGHT DOUBLE WIGGLY FENCEaINCOMPLETE INFINITYaTIE OVER INFINITY",
      "aINFINITY NEGATED WITH VERTICAL BARaDOUBLE-ENDED MULTIMAPaSQUARE WITH CONTOURED OUTLINE",
      "aINCREASES ASaSHUFFLE PRODUCTaEQUALS SIGN AND SLANTED PARALLELq WITH TILDE ABOVE",
      "aIDENTICAL TO AND SLANTED PARALLELaGLEICH STARKaTHERMODYNAMIC",
      "aDOWN-POINTING TRIANGLE WITH LEFT HALF BLACKoRIGHT HALF BLACK",
      "aBLACK DIAMOND WITH DOWN ARROWdLOZENGEaWHITE CIRCLE WITH DOWN ARROW",
      "aBLACK CIRCLE WITH DOWN ARROWaERROR-BARRED WHITE SQUAREg BLACK SQUAREg WHITE DIAMOND",
      "g BLACK DIAMONDg WHITE CIRCLEg BLACK CIRCLEaRULE-DELAYEDaREVERSE SOLIDUS OPERATOR",
      "aSOLIDUS WITH OVERBARaREVERSE SOLIDUS WITH HORIZONTAL STROKEaBIG SOLIDUScREVERSE SOLIDUS",
      "aDOUBLE PLUSaTRIPLE PLUSaLEFT-POINTING CURVED ANGLE BRACKET",
      "aRIGHT-POINTING CURVED ANGLE BRACKETaTINYaMINYaN-ARY CIRCLED DOT OPERATORhPLUS OPERATOR",
      "hTIMES OPERATORdUNION OPERATOR WITH DOTnPLUSdSQUARE INTERSECTION OPERATOR",
      "g UNION OPERATORaTWO LOGICAL AND OPERATORgOR OPERATORaN-ARY TIMES OPERATOR",
      "aMODULO TWO SUMaSUMMATION WITH INTEGRALaQUADRUPLE INTEGRAL OPERATORaFINITE PART INTEGRAL",
      "aINTEGRAL WITH DOUBLE STROKEe AVERAGE WITH SLASHaCIRCULATION FUNCTION",
      "aANTICLOCKWISE INTEGRATIONaLINE INTEGRATION WITH RECTANGULAR PATH AROUND POLE",
      "lSEMICIRCULAR PATH AROUND POLEi NOT INCLUDING THE POLEaINTEGRAL AROUND A POINT OPERATOR",
      "aQUATERNION INTEGRAL OPERATORaINTEGRAL WITH LEFTWARDS ARROW WITH HOOKhTIMES SIGN",
      "hINTERSECTIONhUNIONhOVERBARhUNDERBARaJOINaLARGE LEFT TRIANGLE OPERATOR",
      "aZ NOTATION SCHEMA COMPOSITIONjPIPINGjPROJECTIONaPLUS SIGN WITH SMALL CIRCLE ABOVE",
      "h CIRCUMFLEX ACCENT ABOVEh TILDE ABOVEh DOT BELOWh TILDE BELOWh SUBSCRIPT TWO",
      "h BLACK TRIANGLEaMINUS SIGN WITH COMMA ABOVEiDOT BELOWiFALLING DOTSiRISING DOTS",
      "aPLUS SIGN IN LEFT HALF CIRCLEg RIGHT HALF CIRCLEaVECTOR OR CROSS PRODUCT",
      "aMULTIPLICATION SIGN WITH DOT ABOVEm UNDERBARaSEMIDIRECT PRODUCT WITH BOTTOM CLOSED",
      "aSMASH PRODUCTaMULTIPLICATION SIGN IN LEFT HALF CIRCLEl RIGHT HALF CIRCLE",
      "aCIRCLED MULTIPLICATION SIGN WITH CIRCUMFLEX ACCENTaMULTIPLICATION SIGN IN DOUBLE CIRCLE",
      "aCIRCLED DIVISION SIGNaPLUS SIGN IN TRIANGLEaMINUS SIGN IN TRIANGLE",
      "aMULTIPLICATION SIGN IN TRIANGLEaINTERIOR PRODUCTaRIGHTHAND INTERIOR PRODUCT",
      "aZ NOTATION RELATIONAL COMPOSITIONaAMALGAMATION OR COPRODUCTaINTERSECTION WITH DOT",
      "aUNION WITH MINUS SIGNf OVERBARaINTERSECTION WITH OVERBARjLOGICAL AND",
      "aUNION WITH LOGICAL ORdABOVE INTERSECTIONaINTERSECTION ABOVE UNION",
      "aUNION ABOVE BAR ABOVE INTERSECTIONaINTERSECTION ABOVE BAR ABOVE UNION",
      "aUNION BESIDE AND JOINED WITH UNIONaINTERSECTION BESIDE AND JOINED WITH INTERSECTION",
      "aCLOSED UNION WITH SERIFSd INTERSECTION WITH SERIFSaDOUBLE SQUARE INTERSECTIONhUNION",
      "aCLOSED UNION WITH SERIFS AND SMASH PRODUCTaLOGICAL AND WITH DOT ABOVEeOR WITH DOT ABOVE",
      "aDOUBLE LOGICAL ANDh ORaTWO INTERSECTING LOGICAL ANDm ORaSLOPING LARGE ORhAND",
      "aLOGICAL OR OVERLAPPING LOGICAL ANDeAND WITH MIDDLE STEMeOR WITH MIDDLE STEM",
      "eAND WITH HORIZONTAL DASHeOR WITH HORIZONTAL DASHeAND WITH DOUBLE OVERBARi UNDERBAR",
      "i DOUBLE UNDERBARaSMALL VEE WITH UNDERBARaLOGICAL OR WITH DOUBLE OVERBARl UNDERBAR",
      "aZ NOTATION DOMAIN ANTIRESTRICTIONf RANGE ANTIRESTRICTIONaEQUALS SIGN WITH DOT BELOW",
      "aIDENTICAL WITH DOT ABOVEaTRIPLE HORIZONTAL BAR WITH DOUBLE VERTICAL STROKE",
      "n TRIPLE VERTICAL STROKEaTILDE OPERATOR WITH DOT ABOVEkRISING DOTSaSIMILAR MINUS SIMILAR",
      "aCONGRUENT WITH DOT ABOVEaEQUALS WITH ASTERISKaALMOST EQUAL TO WITH CIRCUMFLEX ACCENT",
      "aAPPROXIMATELY EQUAL OR EQUAL TOaEQUALS SIGN ABOVE PLUS SIGNaPLUS SIGN ABOVE EQUALS SIGN",
      "aEQUALS SIGN ABOVE TILDE OPERATORaDOUBLE COLON EQUALaTWO CONSECUTIVE EQUALS SIGNS",
      "aTHREE CONSECUTIVE EQUALS SIGNSaEQUALS SIGN WITH TWO DOTS ABOVE AND TWO DOTS BELOW",
      "bUIVALENT WITH FOUR DOTS ABOVEaLESS-THAN WITH CIRCLE INSIDE",
      "aGREATER-THAN WITH CIRCLE INSIDEaLESS-THAN WITH QUESTION MARK ABOVE",
      "aGREATER-THAN WITH QUESTION MARK ABOVEaLESS-THAN OR SLANTED EQUAL TO",
      "aGREATER-THAN OR SLANTED EQUAL TOaLESS-THAN OR SLANTED EQUAL TO WITH DOT INSIDE",
      "aGREATER-THAN OR SLANTED EQUAL TO WITH DOT INSIDE",
      "aLESS-THAN OR SLANTED EQUAL TO WITH DOT ABOVE",
      "aGREATER-THAN OR SLANTED EQUAL TO WITH DOT ABOVE",
      "aLESS-THAN OR SLANTED EQUAL TO WITH DOT ABOVE RIGHT",
      "aGREATER-THAN OR SLANTED EQUAL TO WITH DOT ABOVE LEFTaLESS-THAN OR APPROXIMATE",
      "aGREATER-THAN OR APPROXIMATEaLESS-THAN AND SINGLE-LINE NOT EQUAL TO",
      "aGREATER-THAN AND SINGLE-LINE NOT EQUAL TOaLESS-THAN AND NOT APPROXIMATE",
      "aGREATER-THAN AND NOT APPROXIMATEaLESS-THAN ABOVE DOUBLE-LINE EQUAL ABOVE GREATER-THAN",
      "aGREATER-THAN ABOVE DOUBLE-LINE EQUAL ABOVE LESS-THANaLESS-THAN ABOVE SIMILAR OR EQUAL",
      "aGREATER-THAN ABOVE SIMILAR OR EQUALaLESS-THAN ABOVE SIMILAR ABOVE GREATER-THAN",
      "aGREATER-THAN ABOVE SIMILAR ABOVE LESS-THAN",
      "aLESS-THAN ABOVE GREATER-THAN ABOVE DOUBLE-LINE EQUAL",
      "aGREATER-THAN ABOVE LESS-THAN ABOVE DOUBLE-LINE EQUAL",
      "aLESS-THAN ABOVE SLANTED EQUAL ABOVE GREATER-THAN ABOVE SLANTED EQUAL",
      "aGREATER-THAN ABOVE SLANTED EQUAL ABOVE LESS-THAN ABOVE SLANTED EQUAL",
      "aSLANTED EQUAL TO OR LESS-THANkGREATER-THANkLESS-THAN WITH DOT INSIDE",
      "kGREATER-THAN WITH DOT INSIDEaDOUBLE-LINE EQUAL TO OR LESS-THANmGREATER-THAN",
      "gSLANTED EQUAL TO OR LESS-THANqGREATER-THANaSIMILAR OR LESS-THANf GREATER-THAN",
      "eABOVE LESS-THAN ABOVE EQUALS SIGNhGREATER-THAN ABOVE EQUALS SIGN",
      "aDOUBLE NESTED LESS-THANhGREATER-THANhLESS-THAN WITH UNDERBAR",
      "aGREATER-THAN OVERLAPPING LESS-THANg BESIDE LESS-THANaLESS-THAN CLOSED BY CURVE",
      "aGREATER-THAN CLOSED BY CURVEaLESS-THAN CLOSED BY CURVE ABOVE SLANTED EQUAL",
      "aGREATER-THAN CLOSED BY CURVE ABOVE SLANTED EQUALaSMALLER THANaLARGER THAN",
      "aSMALLER THAN OR EQUAL TOaLARGER THAN OR EQUAL TOaEQUALS SIGN WITH BUMPY ABOVE",
      "aPRECEDES ABOVE SINGLE-LINE EQUALS SIGNaSUCCEEDS ABOVE SINGLE-LINE EQUALS SIGN",
      "aPRECEDES ABOVE SINGLE-LINE NOT EQUAL TOaSUCCEEDS ABOVE SINGLE-LINE NOT EQUAL TO",
      "aPRECEDES ABOVE EQUALS SIGNaSUCCEEDS ABOVE EQUALS SIGNaPRECEDES ABOVE NOT EQUAL TO",
      "aSUCCEEDS ABOVE NOT EQUAL TOaPRECEDES ABOVE ALMOST EQUAL TO",
      "aSUCCEEDS ABOVE ALMOST EQUAL TOaPRECEDES ABOVE NOT ALMOST EQUAL TO",
      "aSUCCEEDS ABOVE NOT ALMOST EQUAL TOaDOUBLE PRECEDESd SUCCEEDSaSUBSET WITH DOT",
      "bPERSET WITH DOTbBSET WITH PLUS SIGN BELOWbPERSET WITH PLUS SIGN BELOW",
      "bBSET WITH MULTIPLICATION SIGN BELOWbPERSET WITH MULTIPLICATION SIGN BELOW",
      "bBSET OF OR EQUAL TO WITH DOT ABOVEbPERSET OF OR EQUAL TO WITH DOT ABOVE",
      "bBSET OF ABOVE EQUALS SIGNbPERSET OF ABOVE EQUALS SIGNbBSET OF ABOVE TILDE OPERATOR",
      "bPERSET OF ABOVE TILDE OPERATORbBSET OF ABOVE ALMOST EQUAL TO",
      "bPERSET OF ABOVE ALMOST EQUAL TObBSET OF ABOVE NOT EQUAL TObPERSET OF ABOVE NOT EQUAL TO",
      "aSQUARE LEFT OPEN BOX OPERATORd RIGHT OPEN BOX OPERATORaCLOSED SUBSETeUPERSET",
      "eUBSET OR EQUAL TOeUPERSET OR EQUAL TOaSUBSET ABOVE SUPERSETbPERSET ABOVE SUBSET",
      "bBSET ABOVE SUBSETbPERSET ABOVE SUPERSETe BESIDE SUBSETiAND JOINED BY DASH WITH SUBSET",
      "aELEMENT OF OPENING DOWNWARDSaPITCHFORK WITH TEE TOPaTRANSVERSAL INTERSECTIONaFORKING",
      "aNONFORKINGaSHORT LEFT TACKdDOWN TACKdUP TACKaPERPENDICULAR WITH S",
      "aVERTICAL BAR TRIPLE RIGHT TURNSTILEaDOUBLE VERTICAL BAR LEFT TURNSTILE",
      "aVERTICAL BAR DOUBLE LEFT TURNSTILEaDOUBLE VERTICAL BAR DOUBLE LEFT TURNSTILE",
      "aLONG DASH FROM LEFT MEMBER OF DOUBLE VERTICALaSHORT DOWN TACK WITH OVERBAR",
      "dUP TACK WITH UNDERBARhABOVE SHORT DOWN TACKaDOUBLE DOWN TACKd UP TACKd STROKE NOT SIGN",
      "aREVERSED DOUBLE STROKE NOT SIGNaDOES NOT DIVIDE WITH REVERSED NEGATION SLASH",
      "aVERTICAL LINE WITH CIRCLE ABOVEnBELOWaDOWN TACK WITH CIRCLE BELOW",
      "aPARALLEL WITH HORIZONTAL STROKEhTILDE OPERATORaTRIPLE VERTICAL BAR BINARY RELATION",
      "kWITH HORIZONTAL STROKEd COLON OPERATORd NESTED LESS-THANhGREATER-THAN",
      "aDOUBLE-LINE SLANTED LESS-THAN OR EQUAL TOkGREATER-THAN OR EQUAL TO",
      "aTRIPLE SOLIDUS BINARY RELATIONaLARGE TRIPLE VERTICAL BAR OPERATOR",
      "aDOUBLE SOLIDUS OPERATORaWHITE VERTICAL BARaN-ARY WHITE VERTICAL BAR",
      "aNORTH EAST WHITE ARROWdWEST WHITE ARROWaSOUTH EAST WHITE ARROWdWEST WHITE ARROW",
      "aLEFT RIGHT WHITE ARROWcWARDS BLACK ARROWaUPWARDS BLACK ARROWaDOWNWARDS BLACK ARROW",
      "aNORTH EAST BLACK ARROWdWEST BLACK ARROWaSOUTH EAST BLACK ARROWdWEST BLACK ARROW",
      "aLEFT RIGHT BLACK ARROWaUP DOWN BLACK ARROWaRIGHTWARDS ARROW WITH TIP DOWNWARDSnUPWARDS",
      "aLEFTWARDS ARROW WITH TIP DOWNWARDSm UPWARDSaSQUARE WITH TOP HALF BLACK",
      "gBOTTOM HALF BLACKgUPPER RIGHT DIAGONAL HALF BLACKgLOWER LEFT DIAGONAL HALF BLACK",
      "aDIAMOND WITH LEFT HALF BLACKg RIGHT HALF BLACKg TOP HALF BLACKg BOTTOM HALF BLACK",
      "aDOTTED SQUAREaBLACK LARGE SQUAREaWHITE LARGE SQUAREaBLACK VERY SMALL SQUARE",
      "aWHITE VERY SMALL SQUAREaBLACK PENTAGONaWHITE PENTAGONdHEXAGONaBLACK HEXAGON",
      "aHORIZONTAL BLACK HEXAGONaBLACK LARGE CIRCLEdMEDIUM DIAMONDaWHITE MEDIUM DIAMOND",
      "aBLACK MEDIUM LOZENGEaWHITE MEDIUM LOZENGEaBLACK SMALL DIAMONDgLOZENGE",
      "aWHITE SMALL LOZENGEaBLACK HORIZONTAL ELLIPSEaWHITE HORIZONTAL ELLIPSE",
      "aBLACK VERTICAL ELLIPSEaWHITE VERTICAL ELLIPSEaLEFT ARROW WITH SMALL CIRCLE",
      "aTHREE LEFTWARDS ARROWSaLEFT ARROW WITH CIRCLED PLUSaLONG LEFTWARDS SQUIGGLE ARROW",
      "aLEFTWARDS TWO-HEADED ARROW WITH VERTICAL STROKEqDOUBLE VERTICAL STROKEn FROM BAR",
      "k TRIPLE DASH ARROWfARROW WITH DOTTED STEMk TAIL WITH VERTICAL STROKE",
      "p DOUBLE VERTICAL STROKEfTWO-HEADED ARROW WITH TAILs WITH VERTICAL STROKE",
      "vDOUBLE VERTICAL STROKEfARROW THROUGH XaWAVE ARROW POINTING DIRECTLY LEFT",
      "aEQUALS SIGN ABOVE LEFTWARDS ARROWaREVERSE TILDE OPERATOR ABOVE LEFTWARDS ARROW",
      "aLEFTWARDS ARROW ABOVE REVERSE ALMOST EQUAL TOaRIGHTWARDS ARROW THROUGH GREATER-THAN",
      "m SUPERSETaLEFTWARDS QUADRUPLE ARROWaRIGHTWARDS QUADRUPLE ARROW",
      "aREVERSE TILDE OPERATOR ABOVE RIGHTWARDS ARROW",
      "aRIGHTWARDS ARROW ABOVE REVERSE ALMOST EQUAL TOaTILDE OPERATOR ABOVE LEFTWARDS ARROW",
      "aLEFTWARDS ARROW ABOVE ALMOST EQUAL TOlREVERSE TILDE OPERATOR",
      "aRIGHTWARDS ARROW ABOVE REVERSE TILDE OPERATORaDOWNWARDS TRIANGLE-HEADED ZIGZAG ARROW",
      "aSHORT SLANTED NORTH ARROWdBACKSLANTED SOUTH ARROWaWHITE MEDIUM STARaBLACK SMALL STAR",
      "aWHITE SMALL STARaBLACK RIGHT-POINTING PENTAGONaWHITE RIGHT-POINTING PENTAGON",
      "aHEAVY LARGE CIRCLEdOVAL WITH OVAL INSIDEdCIRCLE WITH CIRCLE INSIDEggD SALTIRE",
      "aSLANTED NORTH ARROW WITH HOOKED HEADaBACKSLANTED SOUTH ARROW WITH HOOKED TAIL",
      "aSLANTED NORTH ARROW WITH HORIZONTAL TAILaBACKSLANTED SOUTH ARROW WITH HORIZONTAL TAIL",
      "aBENT ARROW POINTING DOWNWARDS THEN NORTH EAST",
      "aSHORT BENT ARROW POINTING DOWNWARDS THEN NORTH EASTaLEFTWARDS TRIANGLE-HEADED ARROW",
      "aUPWARDS TRIANGLE-HEADED ARROWaRIGHTWARDS TRIANGLE-HEADED ARROW",
      "aDOWNWARDS TRIANGLE-HEADED ARROWaLEFT RIGHT TRIANGLE-HEADED ARROW",
      "aUP DOWN TRIANGLE-HEADED ARROWaNORTH WEST TRIANGLE-HEADED ARROW",
      "dEAST TRIANGLE-HEADED ARROWaSOUTH EAST TRIANGLE-HEADED ARROWdWEST TRIANGLE-HEADED ARROW",
      "aLEFTWARDS TRIANGLE-HEADED DASHED ARROWaUPWARDS TRIANGLE-HEADED DASHED ARROW",
      "aRIGHTWARDS TRIANGLE-HEADED DASHED ARROWaDOWNWARDS TRIANGLE-HEADED DASHED ARROW",
      "aCLOCKWISE TRIANGLE-HEADED OPEN CIRCLE ARROW",
      "aANTICLOCKWISE TRIANGLE-HEADED OPEN CIRCLE ARROWaLEFTWARDS TRIANGLE-HEADED ARROW TO BAR",
      "aUPWARDS TRIANGLE-HEADED ARROW TO BARaRIGHTWARDS TRIANGLE-HEADED ARROW TO BAR",
      "aDOWNWARDS TRIANGLE-HEADED ARROW TO BAR"]),
   (0x2B76,
     ["aNORTH WEST TRIANGLE-HEADED ARROW TO BARdEAST TRIANGLE-HEADED ARROW TO BAR",
      "aSOUTH EAST TRIANGLE-HEADED ARROW TO BARdWEST TRIANGLE-HEADED ARROW TO BAR",
      "aLEFTWARDS TRIANGLE-HEADED ARROW WITH DOUBLE HORIZONTAL STROKE",
      "aUPWARDS TRIANGLE-HEADED ARROW WITH DOUBLE HORIZONTAL STROKE",
      "aRIGHTWARDS TRIANGLE-HEADED ARROW WITH DOUBLE HORIZONTAL STROKE",
      "aDOWNWARDS TRIANGLE-HEADED ARROW WITH DOUBLE HORIZONTAL STROKEaHORIZONTAL TAB KEY",
      "aVERTICAL TAB KEYaLEFTWARDS TRIANGLE-HEADED ARROW OVER RIGHTWARDS TRIANGLE-HEADED ARROW",
      "aUPWARDS TRIANGLE-HEADED ARROW LEFTWARDS OF DOWNWARDS TRIANGLE-HEADED ARROW",
      "aRIGHTWARDS TRIANGLE-HEADED ARROW OVER LEFTWARDS TRIANGLE-HEADED ARROW",
      "aDOWNWARDS TRIANGLE-HEADED ARROW LEFTWARDS OF UPWARDS TRIANGLE-HEADED ARROW",
      "aLEFTWARDS TRIANGLE-HEADED PAIRED ARROWSaUPWARDS TRIANGLE-HEADED PAIRED ARROWS",
      "aRIGHTWARDS TRIANGLE-HEADED PAIRED ARROWSaDOWNWARDS TRIANGLE-HEADED PAIRED ARROWS",
      "aLEFTWARDS BLACK CIRCLED WHITE ARROWaUPWARDS BLACK CIRCLED WHITE ARROW",
      "aRIGHTWARDS BLACK CIRCLED WHITE ARROWaDOWNWARDS BLACK CIRCLED WHITE ARROW",
      "aANTICLOCKWISE TRIANGLE-HEADED RIGHT U-SHAPED ARROWpBOTTOM U-SHAPED ARROW",
      "pLEFT U-SHAPED ARROWpTOP U-SHAPED ARROWaRETURN LEFTd RIGHTaNEWLINE LEFTeRIGHT",
      "aFOUR CORNER ARROWS CIRCLING ANTICLOCKWISEaRIGHTWARDS BLACK ARROW"]),
   (0x2B97,
     ["aSYMBOL FOR TYPE A ELECTRONICSaTHREE-D TOP-LIGHTED LEFTWARDS EQUILATERAL ARROWHEAD",
      "eRIGHT-LIGHTED UPWARDS EQUILATERAL ARROWHEAD",
      "eTOP-LIGHTED RIGHTWARDS EQUILATERAL ARROWHEAD",
      "eLEFT-LIGHTED DOWNWARDS EQUILATERAL ARROWHEADaBLACK LEFTWARDS EQUILATERAL ARROWHEAD",
      "dUPWARDS EQUILATERAL ARROWHEADdRIGHTWARDS EQUILATERAL ARROWHEAD",
      "dDOWNWARDS EQUILATERAL ARROWHEADaDOWNWARDS TRIANGLE-HEADED ARROW WITH LONG TIP LEFTWARDS",
      "xRIGHTWARDSaUPWARDS TRIANGLE-HEADED ARROW WITH LONG TIP LEFTWARDSwRIGHTWARDS",
      "aLEFTWARDS TRIANGLE-HEADED ARROW WITH LONG TIP UPWARDS",
      "aRIGHTWARDS TRIANGLE-HEADED ARROW WITH LONG TIP UPWARDS",
      "aLEFTWARDS TRIANGLE-HEADED ARROW WITH LONG TIP DOWNWARDS",
      "aRIGHTWARDS TRIANGLE-HEADED ARROW WITH LONG TIP DOWNWARDS",
      "aBLACK CURVED DOWNWARDS AND LEFTWARDS ARROWn RIGHTWARDS ARROW",
      "g UPWARDS AND LEFTWARDS ARROWm RIGHTWARDS ARROWg LEFTWARDS AND UPWARDS ARROW",
      "g RIGHTWARDS AND UPWARDS ARROWg LEFTWARDS AND DOWNWARDS ARROW",
      "g RIGHTWARDS AND DOWNWARDS ARROWaRIBBON ARROW DOWN LEFTjRIGHTg UP LEFTiRIGHTg LEFT UP",
      "g RIGHT UPg LEFT DOWNg RIGHT DOWNaUPWARDS WHITE ARROW FROM BAR WITH HORIZONTAL BAR",
      "b ARROWHEAD IN A RECTANGLE BOXaOVERLAPPING WHITE SQUARESjAND BLACK SQUARESgBLACK SQUARES",
      "aBALLOT BOX WITH LIGHT XaCIRCLED XeBOLD XaBLACK SQUARE CENTREDdDIAMOND CENTRED",
      "aTURNED BLACK PENTAGONaHORIZONTAL BLACK OCTAGONaBLACK OCTAGON",
      "dMEDIUM UP-POINTING TRIANGLE CENTREDg DOWN-POINTING TRIANGLE CENTRED",
      "g LEFT-POINTING TRIANGLE CENTREDg RIGHT-POINTING TRIANGLE CENTREDaNEPTUNE FORM TWO",
      "aTOP HALF BLACK CIRCLEaBOTTOM HALF BLACK CIRCLEaLIGHT FOUR POINTED BLACK CUSP",
      "aROTATED LIGHT FOUR POINTED BLACK CUSPaWHITE FOUR POINTED CUSP",
      "aROTATED WHITE FOUR POINTED CUSPaSQUARE POSITION INDICATORaUNCERTAINTY SIGNaGROUP MARK",
      "aPLUTO FORM TWOgHREEf FOURgIVEaTRANSPLUTOaPROSERPINAaASTRAEAaHYGIEAaPHOLUSaNESSUS",
      "aWHITE MOON SELENAaBLACK DIAMOND ON CROSSaTRUE LIGHT MOON ARTAaCUPIDOaHADESaZEUSaKRONOS",
      "aAPOLLONaADMETOSaVULCANUSaPOSEIDONaLEFT HALF BLACK STARaRIGHT HALF BLACK STAR",
      "aSTAR WITH LEFT HALF BLACKfRIGHT HALF BLACK",
      "aLEFTWARDS TWO-HEADED ARROW WITH TRIANGLE ARROWHEADS",
      "aUPWARDS TWO-HEADED ARROW WITH TRIANGLE ARROWHEADS",
      "aRIGHTWARDS TWO-HEADED ARROW WITH TRIANGLE ARROWHEADS",
      "aDOWNWARDS TWO-HEADED ARROW WITH TRIANGLE ARROWHEADSaERIS FORM ONEfTWOaSEDNA",
      "aRUSSIAN ASTROLOGICAL SYMBOL VIGINTILEoNOVILEoQUINTILEoBINOVILEoSENTAGONoTREDECILE",
      "aEQUALS SIGN WITH INFINITY BELOWaUNITED SYMBOLaSEPARATED SYMBOLaDOUBLED SYMBOL",
      "aPASSED SYMBOLaREVERSED RIGHT ANGLEaHELLSCHREIBER PAUSE SYMBOL",
      "aGLAGOLITIC CAPITAL LETTER AZUnBUKYnVEDEnGLAGOLInDOBROnYESTUnZHIVETEnDZELOnZEMLJAnIZHE",
      "nINITIAL IZHEnInDJERVInKAKOnLJUDIJEnMYSLITEnNASHInONUnPOKOJInRITSInSLOVOnTVRIDOnUKU",
      "nFRITUnHERUnOTUnPEnSHTAnTSInCHRIVInSHAnYERUoRInYATInSPIDERY HAnYUnSMALL YUSrS WITH TAIL",
      "nYOnIOTATED SMALL YUSnBIG YUSnIOTATED BIG YUSnFITAnIZHITSAnSHTAPICnTROKUTASTI A",
      "nLATINATE MYSLITEnCAUDATE CHRIVIf SMALL LETTER AZUmBUKYmVEDEmGLAGOLImDOBROmYESTUmZHIVETE",
      "mDZELOmZEMLJAmIZHEmINITIAL IZHEmImDJERVImKAKOmLJUDIJEmMYSLITEmNASHImONUmPOKOJImRITSI",
      "mSLOVOmTVRIDOmUKUmFRITUmHERUmOTUmPEmSHTAmTSImCHRIVImSHAmYERUnRImYATImSPIDERY HAmYU",
      "mSMALL YUSqS WITH TAILmYOmIOTATED SMALL YUSmBIG YUSmIOTATED BIG YUSmFITAmIZHITSAmSHTAPIC",
      "mTROKUTASTI AmLATINATE MYSLITEmCAUDATE CHRIVIaLATIN CAPITAL LETTER L WITH DOUBLE BAR",
      "dSMALL LETTER L WITH DOUBLE BARdCAPITAL LETTER L WITH MIDDLE TILDEk P WITH STROKE",
      "k R WITH TAILdSMALL LETTER A WITH STROKEj T WITH DIAGONAL STROKE",
      "dCAPITAL LETTER H WITH DESCENDERdSMALL LETTER H WITH DESCENDER",
      "dCAPITAL LETTER K WITH DESCENDERdSMALL LETTER K WITH DESCENDER",
      "dCAPITAL LETTER Z WITH DESCENDERdSMALL LETTER Z WITH DESCENDERdCAPITAL LETTER ALPHA",
      "k M WITH HOOKk TURNED AoALPHAdSMALL LETTER V WITH RIGHT HOOKdCAPITAL LETTER W WITH HOOK",
      "dSMALL LETTER W WITH HOOKj V WITH CURLdCAPITAL LETTER HALF HdSMALL LETTER HALF H",
      "j TAILLESS PHIj E WITH NOTCHj TURNED R WITH TAILj O WITH LOW RING INSIDE",
      "dLETTER SMALL CAPITAL TURNED EdSUBSCRIPT SMALL LETTER JaMODIFIER LETTER CAPITAL V",
      "aLATIN CAPITAL LETTER S WITH SWASH TAILk Z WITH SWASH TAILaCOPTIC CAPITAL LETTER ALFA",
      "d SMALL LETTER ALFAd CAPITAL LETTER VIDAd SMALL LETTER VIDAd CAPITAL LETTER GAMMA",
      "d SMALL LETTER GAMMAd CAPITAL LETTER DALDAd SMALL LETTER DALDAd CAPITAL LETTER EIE",
      "d SMALL LETTER EIEd CAPITAL LETTER SOUd SMALL LETTER SOUd CAPITAL LETTER ZATA",
      "d SMALL LETTER ZATAd CAPITAL LETTER HATEd SMALL LETTER HATEd CAPITAL LETTER THETHE",
      "d SMALL LETTER THETHEd CAPITAL LETTER IAUDAd SMALL LETTER IAUDAd CAPITAL LETTER KAPA",
      "d SMALL LETTER KAPAd CAPITAL LETTER LAULAd SMALL LETTER LAULAd CAPITAL LETTER MI",
      "d SMALL LETTER MId CAPITAL LETTER NId SMALL LETTER NId CAPITAL LETTER KSI",
      "d SMALL LETTER KSId CAPITAL LETTER Od SMALL LETTER Od CAPITAL LETTER PId SMALL LETTER PI",
      "d CAPITAL LETTER ROd SMALL LETTER ROd CAPITAL LETTER SIMAd SMALL LETTER SIMA",
      "d CAPITAL LETTER TAUd SMALL LETTER TAUd CAPITAL LETTER UAd SMALL LETTER UA",
      "d CAPITAL LETTER FId SMALL LETTER FId CAPITAL LETTER KHId SMALL LETTER KHI",
      "d CAPITAL LETTER PSId SMALL LETTER PSId CAPITAL LETTER OOUd SMALL LETTER OOU",
      "d CAPITAL LETTER DIALECT-P ALEFd SMALL LETTER DIALECT-P ALEF",
      "d CAPITAL LETTER OLD COPTIC AINd SMALL LETTER OLD COPTIC AIN",
      "d CAPITAL LETTER CRYPTOGRAMMIC EIEd SMALL LETTER CRYPTOGRAMMIC EIE",
      "d CAPITAL LETTER DIALECT-P KAPAd SMALL LETTER DIALECT-P KAPA",
      "d CAPITAL LETTER DIALECT-P NId SMALL LETTER DIALECT-P NI",
      "d CAPITAL LETTER CRYPTOGRAMMIC NId SMALL LETTER CRYPTOGRAMMIC NI",
      "d CAPITAL LETTER OLD COPTIC OOUd SMALL LETTER OLD COPTIC OOUd CAPITAL LETTER SAMPI",
      "d SMALL LETTER SAMPId CAPITAL LETTER CROSSED SHEId SMALL LETTER CROSSED SHEI",
      "d CAPITAL LETTER OLD COPTIC SHEId SMALL LETTER OLD COPTIC SHEI",
      "d CAPITAL LETTER OLD COPTIC ESHd SMALL LETTER OLD COPTIC ESH",
      "d CAPITAL LETTER AKHMIMIC KHEId SMALL LETTER AKHMIMIC KHEI",
      "d CAPITAL LETTER DIALECT-P HORId SMALL LETTER DIALECT-P HORI",
      "d CAPITAL LETTER OLD COPTIC HORId SMALL LETTER OLD COPTIC HORI",
      "d CAPITAL LETTER OLD COPTIC HAd SMALL LETTER OLD COPTIC HAd CAPITAL LETTER L-SHAPED HA",
      "d SMALL LETTER L-SHAPED HAd CAPITAL LETTER OLD COPTIC HEId SMALL LETTER OLD COPTIC HEI",
      "d CAPITAL LETTER OLD COPTIC HATd SMALL LETTER OLD COPTIC HAT",
      "d CAPITAL LETTER OLD COPTIC GANGIAd SMALL LETTER OLD COPTIC GANGIA",
      "d CAPITAL LETTER OLD COPTIC DJAd SMALL LETTER OLD COPTIC DJA",
      "d CAPITAL LETTER OLD COPTIC SHIMAd SMALL LETTER OLD COPTIC SHIMA",
      "d CAPITAL LETTER OLD NUBIAN SHIMAd SMALL LETTER OLD NUBIAN SHIMA",
      "d CAPITAL LETTER OLD NUBIAN NGId SMALL LETTER OLD NUBIAN NGI",
      "d CAPITAL LETTER OLD NUBIAN NYId SMALL LETTER OLD NUBIAN NYI",
      "d CAPITAL LETTER OLD NUBIAN WAUd SMALL LETTER OLD NUBIAN WAUeYMBOL KAIhMI ROhPI RO",
      "hSTAUROShTAU ROhKHI ROhSHIMA SIMAd CAPITAL LETTER CRYPTOGRAMMIC SHEI",
      "d SMALL LETTER CRYPTOGRAMMIC SHEId CAPITAL LETTER CRYPTOGRAMMIC GANGIA",
      "d SMALL LETTER CRYPTOGRAMMIC GANGIAd COMBINING NI ABOVEi SPIRITUS ASPERnLENIS",
      "eAPITAL LETTER BOHAIRIC KHEId SMALL LETTER BOHAIRIC KHEI"]),
   (0x2CF9,
     ["aCOPTIC OLD NUBIAN FULL STOPjDIRECT QUESTION MARKjINDIRECT QUESTION MARKjVERSE DIVIDER",
      "d FRACTION ONE HALFeULL STOPd MORPHOLOGICAL DIVIDERaGEORGIAN SMALL LETTER ANlBANlGANlDON",
      "lENlVINlZENlTANlINlKANlLASlMANlNARlONlPARlZHARlRAElSANlTARlUNlPHARlKHARlGHANlQARlSHIN",
      "lCHINlCANlJILlCILlCHARlXANlJHANlHAElHElHIElWElHARlHOE"]),
   (0x2D27, ["aGEORGIAN SMALL LETTER YN"]),
   (0x2D2D, ["aGEORGIAN SMALL LETTER AEN"]),
   (0x2D30,
     ["aTIFINAGH LETTER YAjBjBHjGjGHHiBERBER ACADEMY YAJiYAJjDjDHjDDkHiYEYiYAFjKiTUAREG YAK",
      "iYAKHHjHiBERBER ACADEMY YAHiTUAREG YAHiYAHHjAjKHiTUAREG YAKHiYAQiTUAREG YAQiYIiYAZH",
      "iAHAGGAR YAZHiTUAREG YAZHiYALjMjNiTUAREG YAGNmANGiYAPiYUiYARjRRjGHiTUAREG YAGHiAYER YAGH",
      "iYASjSSjSHjTjTHjCHjTTjVjWjYjZiTAWELLEMET YAZiYAZZiYEiYO"]),
   (0x2D6F, ["aTIFINAGH MODIFIER LETTER LABIALIZATION MARKe SEPARATOR MARK"]),
   (0x2D7F,
     ["aTIFINAGH CONSONANT JOINERaETHIOPIC SYLLABLE LOAjMOAjROAjSOAjSHOAjBOAjTOAjCOAjNOAjNYOA",
      "jGLOTTAL OAjZOAjDOAjDDOAjJOAjTHOAjCHOAjPHOAjPOAjGGWAkWIkWEEl"]),
   (0x2DA0, ["aETHIOPIC SYLLABLE SSAkUkIkAAkEEkEkO"]),
   (0x2DA8, ["aETHIOPIC SYLLABLE CCAkUkIkAAkEEkEkO"]),
   (0x2DB0, ["aETHIOPIC SYLLABLE ZZAkUkIkAAkEEkEkO"]),
   (0x2DB8, ["aETHIOPIC SYLLABLE CCHAkHUkHIkHAAkHEElkHO"]),
   (0x2DC0, ["aETHIOPIC SYLLABLE QYAkUkIkAAkEEkEkO"]),
   (0x2DC8, ["aETHIOPIC SYLLABLE KYAkUkIkAAkEEkEkO"]),
   (0x2DD0, ["aETHIOPIC SYLLABLE XYAkUkIkAAkEEkEkO"]),
   (0x2DD8, ["aETHIOPIC SYLLABLE GYAkUkIkAAkEEkEkO"]),
   (0x2DE0,
     ["aCOMBINING CYRILLIC LETTER BEnVEnGHEnDEnZHEnZEnKAnELnEMnENnOnPEnERnESnTEnHAnTSEnCHEnSHA",
      "oCHAnFITAnES-TEnAnIEnDJERVnMONOGRAPH UKnYATnYUnIOTIFIED AnLITTLE YUSnBIG YUS",
      "nIOTIFIED BIG YUSaRIGHT ANGLE SUBSTITUTION MARKERgDOTTED SUBSTITUTION MARKER",
      "aLEFT SUBSTITUTION BRACKETaRIGHT SUBSTITUTION BRACKETaLEFT DOTTED SUBSTITUTION BRACKET",
      "aRIGHT DOTTED SUBSTITUTION BRACKETaRAISED INTERPOLATION MARKER",
      "d DOTTED INTERPOLATION MARKERaDOTTED TRANSPOSITION MARKERaLEFT TRANSPOSITION BRACKET",
      "aRIGHT TRANSPOSITION BRACKETaRAISED SQUAREaLEFT RAISED OMISSION BRACKET",
      "aRIGHT RAISED OMISSION BRACKETaEDITORIAL CORONISaPARAGRAPHOSaFORKED PARAGRAPHOS",
      "aREVERSED FORKED PARAGRAPHOSaHYPODIASTOLEaDOTTED OBELOSbWNWARDS ANCORAaUPWARDS ANCORA",
      "aDOTTED RIGHT-POINTING ANGLEbUBLE OBLIQUE HYPHENaINVERTED INTERROBANGaPALM BRANCH",
      "aHYPHEN WITH DIAERESISaTILDE WITH RING ABOVEaLEFT LOW PARAPHRASE BRACKET",
      "aRIGHT LOW PARAPHRASE BRACKETaTILDE WITH DOT ABOVEh BELOWaLEFT VERTICAL BAR WITH QUILL",
      "aRIGHT VERTICAL BAR WITH QUILLaTOP LEFT HALF BRACKETcRIGHT HALF BRACKET",
      "aBOTTOM LEFT HALF BRACKETd RIGHT HALF BRACKETaLEFT SIDEWAYS U BRACKET",
      "aRIGHT SIDEWAYS U BRACKETaLEFT DOUBLE PARENTHESISaRIGHT DOUBLE PARENTHESIS",
      "aTWO DOTS OVER ONE DOT PUNCTUATIONaONE DOT OVER TWO DOTS PUNCTUATION",
      "aSQUARED FOUR DOT PUNCTUATIONaFIVE DOT MARKaREVERSED QUESTION MARKaVERTICAL TILDE",
      "aRING POINTaWORD SEPARATOR MIDDLE DOTaTURNED COMMAaRAISED DOTd COMMAaTURNED SEMICOLON",
      "aDAGGER WITH LEFT GUARDgRIGHT GUARDaTURNED DAGGERaTOP HALF SECTION SIGNaTWO-EM DASH",
      "aTHREE-EM DASHaSTENOGRAPHIC FULL STOPaVERTICAL SIX DOTSaWIGGLY VERTICAL LINEaCAPITULUM",
      "aDOUBLE HYPHENaREVERSED COMMAaDOUBLE LOW-REVERSED-9 QUOTATION MARKaDASH WITH LEFT UPTURN",
      "aDOUBLE SUSPENSION MARKaINVERTED LOW KAVYKAjA WITH KAVYKA ABOVEaLOW KAVYKAf WITH DOT",
      "aDOUBLE STACKED COMMAbTTED SOLIDUSaTRIPLE DAGGERaMEDIEVAL COMMAaPARAGRAPHUS MARK",
      "aPUNCTUS ELEVATUS MARKaCORNISH VERSE DIVIDERaCROSS PATTY WITH RIGHT CROSSBAR",
      "i LEFT CROSSBARaTIRONIAN SIGN CAPITAL ETaMEDIEVAL EXCLAMATION MARKe QUESTION MARK",
      "aLEFT SQUARE BRACKET WITH STROKEaRIGHT SQUARE BRACKET WITH STROKE",
      "aLEFT SQUARE BRACKET WITH DOUBLE STROKEaRIGHT SQUARE BRACKET WITH DOUBLE STROKE",
      "aTOP HALF LEFT PARENTHESISe RIGHT PARENTHESISaBOTTOM HALF LEFT PARENTHESIS",
      "gRIGHT PARENTHESISaOBLIQUE HYPHEN"]),
   (0x2E80,
     ["aCJK RADICAL REPEATgCLIFFgSECOND ONEj TWOkHREEgPERSONgBOXgTABLEgKNIFE ONEjTWOgDIVINATION",
      "gSEALgSMALL ONEjTWOgLAME ONEi TWOjHREEi FOURgSNAKEgTHREADgSNOUT ONEjTWOgHEART ONEjTWO",
      "gHANDgRAP"]),
   (0x2E9B,
     ["aCJK RADICAL CHOKEgSUNgMOONgDEATHgMOTHERgCIVILIANgWATER ONEjTWOgFIREgPAW ONEiTWO",
      "gSIMPLIFIED HALF TREE TRUNKgCOWgDOGgJADEgBOLT OF CLOTHgEYEgSPIRIT ONEj TWOgBAMBOOgSILK",
      "gC-SIMPLIFIED SILKgNET ONEiTWOiTHREEiFOURgMESHgSHEEPgRAMgEWEgOLDgBRUSH ONEjTWOgMEAT",
      "gMORTARgGRASS ONEjTWOjTHREEgTIGERgCLOTHESgWEST ONEi TWOgC-SIMPLIFIED SEEgSIMPLIFIED HORN",
      "gHORNgC-SIMPLIFIED SPEECHnHELLgFOOTgC-SIMPLIFIED CARTgSIMPLIFIED WALKgWALK ONEi TWOgCITY",
      "gC-SIMPLIFIED GOLDgLONG ONEi TWOgC-SIMPLIFIED LONGm GATEgMOUND ONEjTWOgRAINgBLUE",
      "gC-SIMPLIFIED TANNED LEATHERm LEAFm WINDm FLYgEAT ONEiTWOiTHREEgC-SIMPLIFIED EATgHEAD",
      "gC-SIMPLIFIED HORSEgBONEgGHOSTgC-SIMPLIFIED FISHm BIRDm SALTgSIMPLIFIED WHEATl YELLOW",
      "gC-SIMPLIFIED FROGgJ-SIMPLIFIED EVENgC-SIMPLIFIED EVENgJ-SIMPLIFIED TOOTH",
      "gC-SIMPLIFIED TOOTHgJ-SIMPLIFIED DRAGONgC-SIMPLIFIED DRAGONgTURTLEgJ-SIMPLIFIED TURTLE",
      "gC-SIMPLIFIED TURTLE"]),
   (0x2F00,
     ["aKANGXI RADICAL ONEh LINEh DOTh SLASHiECONDh HOOKh TWOh LIDh MANh LEGSh ENTERiIGHT",
      "h DOWN BOXh COVERh ICEh TABLEh OPEN BOXh KNIFEh POWERh WRAPh SPOONh RIGHT OPEN BOX",
      "h HIDING ENCLOSUREh TENh DIVINATIONh SEALh CLIFFh PRIVATEh AGAINh MOUTHh ENCLOSUREiARTH",
      "h SCHOLARh GOiO SLOWLYh EVENINGh BIGh WOMANh CHILDh ROOFh INCHh SMALLh LAMEh CORPSE",
      "h SPROUTh MOUNTAINh RIVERh WORKh ONESELFh TURBANh DRYh SHORT THREADh DOTTED CLIFF",
      "h LONG STRIDEh TWO HANDSh SHOOTh BOWh SNOUTh BRISTLEh STEPh HEARTiALBERDh DOORh HAND",
      "h BRANCHh RAPh SCRIPTh DIPPERh AXEh SQUAREh NOTh SUNiAYh MOONh TREEh LACKh STOPh DEATH",
      "h WEAPONh DO NOTh COMPAREh FURh CLANh STEAMh WATERh FIREh CLAWh FATHERh DOUBLE X",
      "h HALF TREE TRUNKh SLICEh FANGh COWh DOGh PROFOUNDh JADEh MELONh TILEh SWEETh LIFEh USE",
      "h FIELDh BOLT OF CLOTHh SICKNESSh DOTTED TENTh WHITEh SKINh DISHh EYEh SPEARh ARROW",
      "h STONEiPIRITh TRACKh GRAINh CAVEh STANDh BAMBOOh RICEh SILKh JARh NETh SHEEPh FEATHER",
      "h OLDh ANDh PLOWh EARh BRUSHh MEATiINISTERh SELFh ARRIVEh MORTARh TONGUEh OPPOSEh BOAT",
      "h STOPPINGh COLORh GRASSh TIGERh INSECTh BLOODh WALK ENCLOSUREh CLOTHESh WESTh SEEh HORN",
      "h SPEECHh VALLEYh BEANh PIGh BADGERh SHELLh REDiUNh FOOTh BODYh CARTh BITTERh MORNING",
      "h WALKh CITYh WINEh DISTINGUISHh VILLAGEh GOLDh LONGh GATEh MOUNDh SLAVE",
      "iHORT TAILED BIRDh RAINh BLUEh WRONGh FACEh LEATHERh TANNED LEATHERh LEEKh SOUNDh LEAF",
      "h WINDh FLYh EATh HEADh FRAGRANTh HORSEh BONEh TALLh HAIRh FIGHTh SACRIFICIAL WINE",
      "h CAULDRONh GHOSTh FISHh BIRDh SALTh DEERh WHEATh HEMPh YELLOWh MILLETh BLACK",
      "h EMBROIDERYh FROGh TRIPODh DRUMh RATh NOSEh EVENh TOOTHh DRAGONh TURTLEh FLUTE"]),
   (0x2FF0,
     ["aIDEOGRAPHIC DESCRIPTION CHARACTER LEFT TO RIGHTrABOVE TO BELOWrLEFT TO MIDDLE AND RIGHT",
      "rABOVE TO MIDDLE AND BELOWrFULL SURROUNDrSURROUND FROM ABOVEyBELOWyLEFTyUPPER LEFT",
      "zPER RIGHTyLOWER LEFTrOVERLAID"])]

end TreeQuote.CharacterName

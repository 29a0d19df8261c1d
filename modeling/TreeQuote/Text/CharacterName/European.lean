/-
TreeQuote/Text/CharacterName/European.lean

The names of the scripts of Europe and of the Near East, in runs of code points with
names.  How a run is written is said where runs are read.
-/

namespace TreeQuote.CharacterName

/-- Runs of names of the scripts of Europe and of the Near East. -/
def european : List (Nat × List String) :=
  [(0x20,
     ["aSPACEaEXCLAMATION MARKaQUOTATION MARKaNUMBER SIGNaDOLLAR SIGNaPERCENT SIGNaAMPERSAND",
      "aAPOSTROPHEaLEFT PARENTHESISaRIGHT PARENTHESISaASTERISKaPLUS SIGNaCOMMAaHYPHEN-MINUS",
      "aFULL STOPaSOLIDUSaDIGIT ZEROdONEdTWOdTHREEdFOURdFIVEdSIXdSEVENdEIGHTdNINEaCOLON",
      "aSEMICOLONaLESS-THAN SIGNaEQUALS SIGNaGREATER-THAN SIGNaQUESTION MARKaCOMMERCIAL AT",
      "aLATIN CAPITAL LETTER Ak Bk Ck Dk Ek Fk Gk Hk Ik Jk Kk Lk Mk Nk Ok Pk Qk Rk Sk Tk Uk V",
      "k Wk Xk Yk ZaLEFT SQUARE BRACKETaREVERSE SOLIDUSaRIGHT SQUARE BRACKETaCIRCUMFLEX ACCENT",
      "aLOW LINEaGRAVE ACCENTaLATIN SMALL LETTER Aj Bj Cj Dj Ej Fj Gj Hj Ij Jj Kj Lj Mj Nj Oj P",
      "j Qj Rj Sj Tj Uj Vj Wj Xj Yj ZaLEFT CURLY BRACKETaVERTICAL LINEaRIGHT CURLY BRACKET",
      "aTILDE"]),
   (0xA0,
     ["aNO-BREAK SPACEaINVERTED EXCLAMATION MARKaCENT SIGNaPOUND SIGNaCURRENCY SIGNaYEN SIGN",
      "aBROKEN BARaSECTION SIGNaDIAERESISaCOPYRIGHT SIGNaFEMININE ORDINAL INDICATOR",
      "aLEFT-POINTING DOUBLE ANGLE QUOTATION MARKaNOT SIGNaSOFT HYPHENaREGISTERED SIGNaMACRON",
      "aDEGREE SIGNaPLUS-MINUS SIGNaSUPERSCRIPT TWOgTHREEaACUTE ACCENTaMICRO SIGNaPILCROW SIGN",
      "aMIDDLE DOTaCEDILLAaSUPERSCRIPT ONEaMASCULINE ORDINAL INDICATOR",
      "aRIGHT-POINTING DOUBLE ANGLE QUOTATION MARKaVULGAR FRACTION ONE QUARTERkHALF",
      "iTHREE QUARTERSaINVERTED QUESTION MARKaLATIN CAPITAL LETTER A WITH GRAVEoACUTE",
      "oCIRCUMFLEXoTILDEoDIAERESISoRING ABOVElEk C WITH CEDILLAk E WITH GRAVEoACUTEoCIRCUMFLEX",
      "oDIAERESISk I WITH GRAVEoACUTEoCIRCUMFLEXoDIAERESISk ETHk N WITH TILDEk O WITH GRAVE",
      "oACUTEoCIRCUMFLEXoTILDEoDIAERESISaMULTIPLICATION SIGNaLATIN CAPITAL LETTER O WITH STROKE",
      "k U WITH GRAVEoACUTEoCIRCUMFLEXoDIAERESISk Y WITH ACUTEk THORNdSMALL LETTER SHARP S",
      "j A WITH GRAVEnACUTEnCIRCUMFLEXnTILDEnDIAERESISnRING ABOVEkEj C WITH CEDILLA",
      "j E WITH GRAVEnACUTEnCIRCUMFLEXnDIAERESISj I WITH GRAVEnACUTEnCIRCUMFLEXnDIAERESISj ETH",
      "j N WITH TILDEj O WITH GRAVEnACUTEnCIRCUMFLEXnTILDEnDIAERESISaDIVISION SIGN",
      "aLATIN SMALL LETTER O WITH STROKEj U WITH GRAVEnACUTEnCIRCUMFLEXnDIAERESISj Y WITH ACUTE",
      "j THORNj Y WITH DIAERESISdCAPITAL LETTER A WITH MACRONdSMALL LETTER A WITH MACRON",
      "dCAPITAL LETTER A WITH BREVEdSMALL LETTER A WITH BREVEdCAPITAL LETTER A WITH OGONEK",
      "dSMALL LETTER A WITH OGONEKdCAPITAL LETTER C WITH ACUTEdSMALL LETTER C WITH ACUTE",
      "dCAPITAL LETTER C WITH CIRCUMFLEXdSMALL LETTER C WITH CIRCUMFLEX",
      "dCAPITAL LETTER C WITH DOT ABOVEdSMALL LETTER C WITH DOT ABOVE",
      "dCAPITAL LETTER C WITH CARONdSMALL LETTER C WITH CARONdCAPITAL LETTER D WITH CARON",
      "dSMALL LETTER D WITH CARONdCAPITAL LETTER D WITH STROKEdSMALL LETTER D WITH STROKE",
      "dCAPITAL LETTER E WITH MACRONdSMALL LETTER E WITH MACRONdCAPITAL LETTER E WITH BREVE",
      "dSMALL LETTER E WITH BREVEdCAPITAL LETTER E WITH DOT ABOVEdSMALL LETTER E WITH DOT ABOVE",
      "dCAPITAL LETTER E WITH OGONEKdSMALL LETTER E WITH OGONEKdCAPITAL LETTER E WITH CARON",
      "dSMALL LETTER E WITH CARONdCAPITAL LETTER G WITH CIRCUMFLEX",
      "dSMALL LETTER G WITH CIRCUMFLEXdCAPITAL LETTER G WITH BREVEdSMALL LETTER G WITH BREVE",
      "dCAPITAL LETTER G WITH DOT ABOVEdSMALL LETTER G WITH DOT ABOVE",
      "dCAPITAL LETTER G WITH CEDILLAdSMALL LETTER G WITH CEDILLA",
      "dCAPITAL LETTER H WITH CIRCUMFLEXdSMALL LETTER H WITH CIRCUMFLEX",
      "dCAPITAL LETTER H WITH STROKEdSMALL LETTER H WITH STROKEdCAPITAL LETTER I WITH TILDE",
      "dSMALL LETTER I WITH TILDEdCAPITAL LETTER I WITH MACRONdSMALL LETTER I WITH MACRON",
      "dCAPITAL LETTER I WITH BREVEdSMALL LETTER I WITH BREVEdCAPITAL LETTER I WITH OGONEK",
      "dSMALL LETTER I WITH OGONEKdCAPITAL LETTER I WITH DOT ABOVEdSMALL LETTER DOTLESS I",
      "dCAPITAL LIGATURE IJdSMALL LIGATURE IJdCAPITAL LETTER J WITH CIRCUMFLEX",
      "dSMALL LETTER J WITH CIRCUMFLEXdCAPITAL LETTER K WITH CEDILLA",
      "dSMALL LETTER K WITH CEDILLAkRAdCAPITAL LETTER L WITH ACUTEdSMALL LETTER L WITH ACUTE",
      "dCAPITAL LETTER L WITH CEDILLAdSMALL LETTER L WITH CEDILLAdCAPITAL LETTER L WITH CARON",
      "dSMALL LETTER L WITH CARONdCAPITAL LETTER L WITH MIDDLE DOT",
      "dSMALL LETTER L WITH MIDDLE DOTdCAPITAL LETTER L WITH STROKEdSMALL LETTER L WITH STROKE",
      "dCAPITAL LETTER N WITH ACUTEdSMALL LETTER N WITH ACUTEdCAPITAL LETTER N WITH CEDILLA",
      "dSMALL LETTER N WITH CEDILLAdCAPITAL LETTER N WITH CARONdSMALL LETTER N WITH CARON",
      "k PRECEDED BY APOSTROPHEdCAPITAL LETTER ENGdSMALL LETTER ENG",
      "dCAPITAL LETTER O WITH MACRONdSMALL LETTER O WITH MACRONdCAPITAL LETTER O WITH BREVE",
      "dSMALL LETTER O WITH BREVEdCAPITAL LETTER O WITH DOUBLE ACUTE",
      "dSMALL LETTER O WITH DOUBLE ACUTEdCAPITAL LIGATURE OEdSMALL LIGATURE OE",
      "dCAPITAL LETTER R WITH ACUTEdSMALL LETTER R WITH ACUTEdCAPITAL LETTER R WITH CEDILLA",
      "dSMALL LETTER R WITH CEDILLAdCAPITAL LETTER R WITH CARONdSMALL LETTER R WITH CARON",
      "dCAPITAL LETTER S WITH ACUTEdSMALL LETTER S WITH ACUTEdCAPITAL LETTER S WITH CIRCUMFLEX",
      "dSMALL LETTER S WITH CIRCUMFLEXdCAPITAL LETTER S WITH CEDILLA",
      "dSMALL LETTER S WITH CEDILLAdCAPITAL LETTER S WITH CARONdSMALL LETTER S WITH CARON",
      "dCAPITAL LETTER T WITH CEDILLAdSMALL LETTER T WITH CEDILLAdCAPITAL LETTER T WITH CARON",
      "dSMALL LETTER T WITH CARONdCAPITAL LETTER T WITH STROKEdSMALL LETTER T WITH STROKE",
      "dCAPITAL LETTER U WITH TILDEdSMALL LETTER U WITH TILDEdCAPITAL LETTER U WITH MACRON",
      "dSMALL LETTER U WITH MACRONdCAPITAL LETTER U WITH BREVEdSMALL LETTER U WITH BREVE",
      "dCAPITAL LETTER U WITH RING ABOVEdSMALL LETTER U WITH RING ABOVE",
      "dCAPITAL LETTER U WITH DOUBLE ACUTEdSMALL LETTER U WITH DOUBLE ACUTE",
      "dCAPITAL LETTER U WITH OGONEKdSMALL LETTER U WITH OGONEK",
      "dCAPITAL LETTER W WITH CIRCUMFLEXdSMALL LETTER W WITH CIRCUMFLEX",
      "dCAPITAL LETTER Y WITH CIRCUMFLEXdSMALL LETTER Y WITH CIRCUMFLEX",
      "dCAPITAL LETTER Y WITH DIAERESISk Z WITH ACUTEdSMALL LETTER Z WITH ACUTE",
      "dCAPITAL LETTER Z WITH DOT ABOVEdSMALL LETTER Z WITH DOT ABOVE",
      "dCAPITAL LETTER Z WITH CARONdSMALL LETTER Z WITH CARONj LONG Sj B WITH STROKE",
      "dCAPITAL LETTER B WITH HOOKoTOPBARdSMALL LETTER B WITH TOPBARdCAPITAL LETTER TONE SIX",
      "dSMALL LETTER TONE SIXdCAPITAL LETTER OPEN Ok C WITH HOOKdSMALL LETTER C WITH HOOK",
      "dCAPITAL LETTER AFRICAN Dk D WITH HOOKoTOPBARdSMALL LETTER D WITH TOPBARj TURNED DELTA",
      "dCAPITAL LETTER REVERSED Ek SCHWAk OPEN Ek F WITH HOOKdSMALL LETTER F WITH HOOK",
      "dCAPITAL LETTER G WITH HOOKlAMMAdSMALL LETTER HVdCAPITAL LETTER IOTAl WITH STROKE",
      "k K WITH HOOKdSMALL LETTER K WITH HOOKj L WITH BARkAMBDA WITH STROKE",
      "dCAPITAL LETTER TURNED Mk N WITH LEFT HOOKdSMALL LETTER N WITH LONG RIGHT LEG",
      "dCAPITAL LETTER O WITH MIDDLE TILDEoHORNdSMALL LETTER O WITH HORNdCAPITAL LETTER OI",
      "dSMALL LETTER OIdCAPITAL LETTER P WITH HOOKdSMALL LETTER P WITH HOOKdLETTER YR",
      "dCAPITAL LETTER TONE TWOdSMALL LETTER TONE TWOdCAPITAL LETTER ESH",
      "dLETTER REVERSED ESH LOOPdSMALL LETTER T WITH PALATAL HOOKdCAPITAL LETTER T WITH HOOK",
      "dSMALL LETTER T WITH HOOKdCAPITAL LETTER T WITH RETROFLEX HOOKk U WITH HORN",
      "dSMALL LETTER U WITH HORNdCAPITAL LETTER UPSILONk V WITH HOOKk Y WITH HOOK",
      "dSMALL LETTER Y WITH HOOKdCAPITAL LETTER Z WITH STROKEdSMALL LETTER Z WITH STROKE",
      "dCAPITAL LETTER EZHm REVERSEDdSMALL LETTER EZH REVERSEDl WITH TAIL",
      "dLETTER TWO WITH STROKEdCAPITAL LETTER TONE FIVEdSMALL LETTER TONE FIVE",
      "dLETTER INVERTED GLOTTAL STOP WITH STROKEg WYNNg DENTAL CLICKg LATERAL CLICK",
      "g ALVEOLAR CLICKg RETROFLEX CLICKdCAPITAL LETTER DZ WITH CARON",
      "l WITH SMALL LETTER Z WITH CARONdSMALL LETTER DZ WITH CARONdCAPITAL LETTER LJ",
      "l WITH SMALL LETTER JdSMALL LETTER LJdCAPITAL LETTER NJl WITH SMALL LETTER J",
      "dSMALL LETTER NJdCAPITAL LETTER A WITH CARONdSMALL LETTER A WITH CARON",
      "dCAPITAL LETTER I WITH CARONdSMALL LETTER I WITH CARONdCAPITAL LETTER O WITH CARON",
      "dSMALL LETTER O WITH CARONdCAPITAL LETTER U WITH CARONdSMALL LETTER U WITH CARON",
      "dCAPITAL LETTER U WITH DIAERESIS AND MACRONdSMALL LETTER U WITH DIAERESIS AND MACRON",
      "dCAPITAL LETTER U WITH DIAERESIS AND ACUTEdSMALL LETTER U WITH DIAERESIS AND ACUTE",
      "dCAPITAL LETTER U WITH DIAERESIS AND CARONdSMALL LETTER U WITH DIAERESIS AND CARON",
      "dCAPITAL LETTER U WITH DIAERESIS AND GRAVEdSMALL LETTER U WITH DIAERESIS AND GRAVE",
      "j TURNED EdCAPITAL LETTER A WITH DIAERESIS AND MACRON",
      "dSMALL LETTER A WITH DIAERESIS AND MACRONdCAPITAL LETTER A WITH DOT ABOVE AND MACRON",
      "dSMALL LETTER A WITH DOT ABOVE AND MACRONdCAPITAL LETTER AE WITH MACRON",
      "dSMALL LETTER AE WITH MACRONdCAPITAL LETTER G WITH STROKEdSMALL LETTER G WITH STROKE",
      "dCAPITAL LETTER G WITH CARONdSMALL LETTER G WITH CARONdCAPITAL LETTER K WITH CARON",
      "dSMALL LETTER K WITH CARONdCAPITAL LETTER O WITH OGONEKdSMALL LETTER O WITH OGONEK",
      "dCAPITAL LETTER O WITH OGONEK AND MACRONdSMALL LETTER O WITH OGONEK AND MACRON",
      "dCAPITAL LETTER EZH WITH CARONdSMALL LETTER EZH WITH CARONj J WITH CARON",
      "dCAPITAL LETTER DZl WITH SMALL LETTER ZdSMALL LETTER DZdCAPITAL LETTER G WITH ACUTE",
      "dSMALL LETTER G WITH ACUTEdCAPITAL LETTER HWAIRk WYNNk N WITH GRAVE",
      "dSMALL LETTER N WITH GRAVEdCAPITAL LETTER A WITH RING ABOVE AND ACUTE",
      "dSMALL LETTER A WITH RING ABOVE AND ACUTEdCAPITAL LETTER AE WITH ACUTE",
      "dSMALL LETTER AE WITH ACUTEdCAPITAL LETTER O WITH STROKE AND ACUTE",
      "dSMALL LETTER O WITH STROKE AND ACUTEdCAPITAL LETTER A WITH DOUBLE GRAVE",
      "dSMALL LETTER A WITH DOUBLE GRAVEdCAPITAL LETTER A WITH INVERTED BREVE",
      "dSMALL LETTER A WITH INVERTED BREVEdCAPITAL LETTER E WITH DOUBLE GRAVE",
      "dSMALL LETTER E WITH DOUBLE GRAVEdCAPITAL LETTER E WITH INVERTED BREVE",
      "dSMALL LETTER E WITH INVERTED BREVEdCAPITAL LETTER I WITH DOUBLE GRAVE",
      "dSMALL LETTER I WITH DOUBLE GRAVEdCAPITAL LETTER I WITH INVERTED BREVE",
      "dSMALL LETTER I WITH INVERTED BREVEdCAPITAL LETTER O WITH DOUBLE GRAVE",
      "dSMALL LETTER O WITH DOUBLE GRAVEdCAPITAL LETTER O WITH INVERTED BREVE",
      "dSMALL LETTER O WITH INVERTED BREVEdCAPITAL LETTER R WITH DOUBLE GRAVE",
      "dSMALL LETTER R WITH DOUBLE GRAVEdCAPITAL LETTER R WITH INVERTED BREVE",
      "dSMALL LETTER R WITH INVERTED BREVEdCAPITAL LETTER U WITH DOUBLE GRAVE",
      "dSMALL LETTER U WITH DOUBLE GRAVEdCAPITAL LETTER U WITH INVERTED BREVE",
      "dSMALL LETTER U WITH INVERTED BREVEdCAPITAL LETTER S WITH COMMA BELOW",
      "dSMALL LETTER S WITH COMMA BELOWdCAPITAL LETTER T WITH COMMA BELOW",
      "dSMALL LETTER T WITH COMMA BELOWdCAPITAL LETTER YOGHdSMALL LETTER YOGH",
      "dCAPITAL LETTER H WITH CARONdSMALL LETTER H WITH CARON",
      "dCAPITAL LETTER N WITH LONG RIGHT LEGdSMALL LETTER D WITH CURLdCAPITAL LETTER OU",
      "dSMALL LETTER OUdCAPITAL LETTER Z WITH HOOKdSMALL LETTER Z WITH HOOK",
      "dCAPITAL LETTER A WITH DOT ABOVEdSMALL LETTER A WITH DOT ABOVE",
      "dCAPITAL LETTER E WITH CEDILLAdSMALL LETTER E WITH CEDILLA",
      "dCAPITAL LETTER O WITH DIAERESIS AND MACRONdSMALL LETTER O WITH DIAERESIS AND MACRON",
      "dCAPITAL LETTER O WITH TILDE AND MACRONdSMALL LETTER O WITH TILDE AND MACRON",
      "dCAPITAL LETTER O WITH DOT ABOVEdSMALL LETTER O WITH DOT ABOVE",
      "dCAPITAL LETTER O WITH DOT ABOVE AND MACRONdSMALL LETTER O WITH DOT ABOVE AND MACRON",
      "dCAPITAL LETTER Y WITH MACRONdSMALL LETTER Y WITH MACRONj L WITH CURLj N WITH CURL",
      "j T WITH CURLj DOTLESS JkB DIGRAPHj QP DIGRAPHdCAPITAL LETTER A WITH STROKE",
      "k C WITH STROKEdSMALL LETTER C WITH STROKEdCAPITAL LETTER L WITH BAR",
      "k T WITH DIAGONAL STROKEdSMALL LETTER S WITH SWASH TAILj Z WITH SWASH TAIL",
      "dCAPITAL LETTER GLOTTAL STOPdSMALL LETTER GLOTTAL STOPdCAPITAL LETTER B WITH STROKE",
      "k U BARk TURNED Vk E WITH STROKEdSMALL LETTER E WITH STROKEdCAPITAL LETTER J WITH STROKE",
      "dSMALL LETTER J WITH STROKEdCAPITAL LETTER SMALL Q WITH HOOK TAIL",
      "dSMALL LETTER Q WITH HOOK TAILdCAPITAL LETTER R WITH STROKEdSMALL LETTER R WITH STROKE",
      "dCAPITAL LETTER Y WITH STROKEdSMALL LETTER Y WITH STROKEj TURNED Aj ALPHAj TURNED ALPHA",
      "j B WITH HOOKj OPEN Oj C WITH CURLj D WITH TAILnHOOKj REVERSED Ej SCHWAm WITH HOOK",
      "j OPEN Ej REVERSED OPEN Er WITH HOOKj CLOSED REVERSED OPEN Ej DOTLESS J WITH STROKE",
      "j G WITH HOOKj SCRIPT GdLETTER SMALL CAPITAL GdSMALL LETTER GAMMAj RAMS HORNj TURNED H",
      "j H WITH HOOKkENG WITH HOOKj I WITH STROKEkOTAdLETTER SMALL CAPITAL I",
      "dSMALL LETTER L WITH MIDDLE TILDEnBELTnRETROFLEX HOOKkEZHj TURNED MnM WITH LONG LEG",
      "j M WITH HOOKj N WITH LEFT HOOKnRETROFLEX HOOKdLETTER SMALL CAPITAL N",
      "dSMALL LETTER BARRED OdLETTER SMALL CAPITAL OEdSMALL LETTER CLOSED OMEGAj PHIj TURNED R",
      "nR WITH LONG LEGq HOOKj R WITH LONG LEGnTAILnFISHHOOKkEVERSED R WITH FISHHOOK",
      "dLETTER SMALL CAPITAL Rn INVERTED RdSMALL LETTER S WITH HOOKj ESH",
      "j DOTLESS J WITH STROKE AND HOOKj SQUAT REVERSED ESHj ESH WITH CURLj TURNED T",
      "k WITH RETROFLEX HOOKj U BARkPSILONj V WITH HOOKj TURNED VnWnYdLETTER SMALL CAPITAL Y",
      "dSMALL LETTER Z WITH RETROFLEX HOOKnCURLj EZHl WITH CURLdLETTER GLOTTAL STOP",
      "g PHARYNGEAL VOICED FRICATIVEg INVERTED GLOTTAL STOPg STRETCHED Cg BILABIAL CLICK",
      "g SMALL CAPITAL BdSMALL LETTER CLOSED OPEN EdLETTER SMALL CAPITAL G WITH HOOKn H",
      "dSMALL LETTER J WITH CROSSED-TAILj TURNED KdLETTER SMALL CAPITAL L",
      "dSMALL LETTER Q WITH HOOKdLETTER GLOTTAL STOP WITH STROKE",
      "g REVERSED GLOTTAL STOP WITH STROKEdSMALL LETTER DZ DIGRAPHkEZH DIGRAPH",
      "kZ DIGRAPH WITH CURLj TS DIGRAPHkESH DIGRAPHkC DIGRAPH WITH CURLj FENG DIGRAPH",
      "j LS DIGRAPHkZ DIGRAPHdLETTER BILABIAL PERCUSSIVEhIDENTAL PERCUSSIVE",
      "dSMALL LETTER TURNED H WITH FISHHOOKuK AND TAILaMODIFIER LETTER SMALL HlH WITH HOOKlJlR",
      "lTURNED Rp WITH HOOKlCAPITAL INVERTED RlWlYiPRIMEiDOUBLE PRIMEiTURNED COMMAiAPOSTROPHE",
      "iREVERSED COMMAiRIGHT HALF RINGiLEFT HALF RINGiGLOTTAL STOPiREVERSED GLOTTAL STOP",
      "iLEFT ARROWHEADiRIGHT ARROWHEADiUP ARROWHEADiDOWN ARROWHEADiCIRCUMFLEX ACCENTaCARON",
      "aMODIFIER LETTER VERTICAL LINEiMACRONiACUTE ACCENTiGRAVE ACCENTiLOW VERTICAL LINEkMACRON",
      "kGRAVE ACCENTkACUTE ACCENTiTRIANGULAR COLONiHALF TRIANGULAR COLON",
      "iCENTRED RIGHT HALF RINGmLEFT HALF RINGiUP TACKiDOWN TACKiPLUS SIGNiMINUS SIGNaBREVE",
      "aDOT ABOVEaRING ABOVEaOGONEKaSMALL TILDEaDOUBLE ACUTE ACCENTaMODIFIER LETTER RHOTIC HOOK",
      "iCROSS ACCENTiSMALL GAMMAlLlSlXlREVERSED GLOTTAL STOPiEXTRA-HIGH TONE BARiHIGH TONE BAR",
      "iMID TONE BARiLOW TONE BARiEXTRA-LOW TONE BARiYIN DEPARTING TONE MARK",
      "iYANG DEPARTING TONE MARKiVOICINGiUNASPIRATEDiDOUBLE APOSTROPHEiLOW DOWN ARROWHEAD",
      "kUP ARROWHEADkLEFT ARROWHEADkRIGHT ARROWHEADlNGiMIDDLE GRAVE ACCENTl DOUBLE GRAVE ACCENT",
      "pACUTE ACCENTiLOW TILDEiRAISED COLONiBEGIN HIGH TONEiEND HIGH TONEiBEGIN LOW TONE",
      "iEND LOW TONEiSHELFiOPEN SHELFiLOW LEFT ARROWaCOMBINING GRAVE ACCENTfACUTE ACCENT",
      "fCIRCUMFLEX ACCENTfTILDEfMACRONfOVERLINEfBREVEfDOT ABOVEfDIAERESISfHOOK ABOVEfRING ABOVE",
      "fDOUBLE ACUTE ACCENTfCARONfVERTICAL LINE ABOVEfDOUBLE VERTICAL LINE ABOVEi GRAVE ACCENT",
      "fCANDRABINDUfINVERTED BREVEfTURNED COMMA ABOVEfCOMMA ABOVEfREVERSED COMMA ABOVE",
      "fCOMMA ABOVE RIGHTfGRAVE ACCENT BELOWfACUTE ACCENT BELOWfLEFT TACK BELOW",
      "fRIGHT TACK BELOWfLEFT ANGLE ABOVEfHORNfLEFT HALF RING BELOWfUP TACK BELOW",
      "fDOWN TACK BELOWfPLUS SIGN BELOWfMINUS SIGN BELOWfPALATALIZED HOOK BELOW",
      "fRETROFLEX HOOK BELOWfDOT BELOWfDIAERESIS BELOWfRING BELOWfCOMMA BELOWfCEDILLAfOGONEK",
      "fVERTICAL LINE BELOWfBRIDGE BELOWfINVERTED DOUBLE ARCH BELOWfCARON BELOW",
      "fCIRCUMFLEX ACCENT BELOWfBREVE BELOWfINVERTED BREVE BELOWfTILDE BELOWfMACRON BELOW",
      "fLOW LINEfDOUBLE LOW LINEfTILDE OVERLAYfSHORT STROKE OVERLAYfLONG STROKE OVERLAY",
      "fSHORT SOLIDUS OVERLAYfLONG SOLIDUS OVERLAYfRIGHT HALF RING BELOWfINVERTED BRIDGE BELOW",
      "fSQUARE BELOWfSEAGULL BELOWfX ABOVEfVERTICAL TILDEfDOUBLE OVERLINEfGRAVE TONE MARK",
      "fACUTE TONE MARKfGREEK PERISPOMENIiKORONISiDIALYTIKA TONOSiYPOGEGRAMMENIfBRIDGE ABOVE",
      "fEQUALS SIGN BELOWfDOUBLE VERTICAL LINE BELOWfLEFT ANGLE BELOWfNOT TILDE ABOVE",
      "fHOMOTHETIC ABOVEfALMOST EQUAL TO ABOVEfLEFT RIGHT ARROW BELOWfUPWARDS ARROW BELOW",
      "fGRAPHEME JOINERfRIGHT ARROWHEAD ABOVEfLEFT HALF RING ABOVEfFERMATAfX BELOW",
      "fLEFT ARROWHEAD BELOWfRIGHT ARROWHEAD BELOWnAND UP ARROWHEAD BELOWiHALF RING ABOVE",
      "fDOT ABOVE RIGHTfASTERISK BELOWfDOUBLE RING BELOWfZIGZAG ABOVEfDOUBLE BREVE BELOWl",
      "i MACRONlN BELOWi TILDEi INVERTED BREVEi RIGHTWARDS ARROW BELOWfLATIN SMALL LETTER Ao E",
      "o Io Oo Uo Co Do Ho Mo Ro To Vo XaGREEK CAPITAL LETTER HETAdSMALL LETTER HETA",
      "dCAPITAL LETTER ARCHAIC SAMPIdSMALL LETTER ARCHAIC SAMPIdNUMERAL SIGNdLOWER NUMERAL SIGN",
      "dCAPITAL LETTER PAMPHYLIAN DIGAMMAdSMALL LETTER PAMPHYLIAN DIGAMMA"]),
   (0x37A,
     ["aGREEK YPOGEGRAMMENIdSMALL REVERSED LUNATE SIGMA SYMBOLgDOTTED LUNATE SIGMA SYMBOL",
      "gREVERSED DOTTED LUNATE SIGMA SYMBOLdQUESTION MARKdCAPITAL LETTER YOT"]),
   (0x384,
     ["aGREEK TONOSdDIALYTIKA TONOSdCAPITAL LETTER ALPHA WITH TONOSdANO TELEIA",
      "dCAPITAL LETTER EPSILON WITH TONOSlTA WITH TONOSk IOTA WITH TONOS"]),
   (0x38C, ["aGREEK CAPITAL LETTER OMICRON WITH TONOS"]),
   (0x38E,
     ["aGREEK CAPITAL LETTER UPSILON WITH TONOSk OMEGA WITH TONOS",
      "dSMALL LETTER IOTA WITH DIALYTIKA AND TONOSdCAPITAL LETTER ALPHAk BETAk GAMMAk DELTA",
      "k EPSILONk ZETAk ETAk THETAk IOTAk KAPPAk LAMDAk MUk NUk XIk OMICRONk PIk RHO"]),
   (0x3A3,
     ["aGREEK CAPITAL LETTER SIGMAk TAUk UPSILONk PHIk CHIk PSIk OMEGAk IOTA WITH DIALYTIKA",
      "k UPSILON WITH DIALYTIKAdSMALL LETTER ALPHA WITH TONOSj EPSILON WITH TONOSkTA WITH TONOS",
      "j IOTA WITH TONOSj UPSILON WITH DIALYTIKA AND TONOSj ALPHAj BETAj GAMMAj DELTAj EPSILON",
      "j ZETAj ETAj THETAj IOTAj KAPPAj LAMDAj MUj NUj XIj OMICRONj PIj RHOj FINAL SIGMAj SIGMA",
      "j TAUj UPSILONj PHIj CHIj PSIj OMEGAj IOTA WITH DIALYTIKAj UPSILON WITH DIALYTIKA",
      "j OMICRON WITH TONOSj UPSILON WITH TONOSj OMEGA WITH TONOSdCAPITAL KAI SYMBOL",
      "dBETA SYMBOLdTHETA SYMBOLdUPSILON WITH HOOK SYMBOLj ACUTE AND HOOK SYMBOL",
      "j DIAERESIS AND HOOK SYMBOLdPHI SYMBOLdPI SYMBOLdKAI SYMBOLdLETTER ARCHAIC KOPPA",
      "dSMALL LETTER ARCHAIC KOPPAdLETTER STIGMAdSMALL LETTER STIGMAdLETTER DIGAMMA",
      "dSMALL LETTER DIGAMMAdLETTER KOPPAdSMALL LETTER KOPPAdLETTER SAMPIdSMALL LETTER SAMPI",
      "aCOPTIC CAPITAL LETTER SHEId SMALL LETTER SHEId CAPITAL LETTER FEId SMALL LETTER FEI",
      "d CAPITAL LETTER KHEId SMALL LETTER KHEId CAPITAL LETTER HORId SMALL LETTER HORI",
      "d CAPITAL LETTER GANGIAd SMALL LETTER GANGIAd CAPITAL LETTER SHIMAd SMALL LETTER SHIMA",
      "d CAPITAL LETTER DEId SMALL LETTER DEIaGREEK KAPPA SYMBOLdRHO SYMBOLdLUNATE SIGMA SYMBOL",
      "dLETTER YOTdCAPITAL THETA SYMBOLdLUNATE EPSILON SYMBOLdREVERSED LUNATE EPSILON SYMBOL",
      "dCAPITAL LETTER SHOdSMALL LETTER SHOdCAPITAL LUNATE SIGMA SYMBOLhLETTER SAN",
      "dSMALL LETTER SANdRHO WITH STROKE SYMBOLdCAPITAL REVERSED LUNATE SIGMA SYMBOL",
      "hDOTTED LUNATE SIGMA SYMBOLhREVERSED DOTTED LUNATE SIGMA SYMBOL",
      "aCYRILLIC CAPITAL LETTER IE WITH GRAVEmIOmDJEmGJEmUKRAINIAN IEmDZE",
      "mBYELORUSSIAN-UKRAINIAN ImYImJEmLJEmNJEmTSHEmKJEmI WITH GRAVEmSHORT UmDZHEmAmBEmVEmGHE",
      "mDEmIEmZHEmZEmImSHORT ImKAmELmEMmENmOmPEmERmESmTEmUmEFmHAmTSEmCHEmSHAnCHAmHARD SIGNmYERU",
      "mSOFT SIGNmEmYUmYAe SMALL LETTER AlBElVElGHElDElIElZHElZElIlSHORT IlKAlELlEMlENlOlPElER",
      "lESlTElUlEFlHAlTSElCHElSHAmCHAlHARD SIGNlYERUlSOFT SIGNlElYUlYAlIE WITH GRAVElIOlDJElGJE",
      "lUKRAINIAN IElDZElBYELORUSSIAN-UKRAINIAN IlYIlJElLJElNJElTSHElKJElI WITH GRAVElSHORT U",
      "lDZHEe CAPITAL LETTER OMEGAe SMALL LETTER OMEGAe CAPITAL LETTER YATe SMALL LETTER YAT",
      "e CAPITAL LETTER IOTIFIED Ee SMALL LETTER IOTIFIED Ee CAPITAL LETTER LITTLE YUS",
      "e SMALL LETTER LITTLE YUSe CAPITAL LETTER IOTIFIED LITTLE YUS",
      "e SMALL LETTER IOTIFIED LITTLE YUSe CAPITAL LETTER BIG YUSe SMALL LETTER BIG YUS",
      "e CAPITAL LETTER IOTIFIED BIG YUSe SMALL LETTER IOTIFIED BIG YUSe CAPITAL LETTER KSI",
      "e SMALL LETTER KSIe CAPITAL LETTER PSIe SMALL LETTER PSIe CAPITAL LETTER FITA",
      "e SMALL LETTER FITAe CAPITAL LETTER IZHITSAe SMALL LETTER IZHITSA",
      "e CAPITAL LETTER IZHITSA WITH DOUBLE GRAVE ACCENT",
      "e SMALL LETTER IZHITSA WITH DOUBLE GRAVE ACCENTe CAPITAL LETTER UKe SMALL LETTER UK",
      "e CAPITAL LETTER ROUND OMEGAe SMALL LETTER ROUND OMEGAe CAPITAL LETTER OMEGA WITH TITLO",
      "e SMALL LETTER OMEGA WITH TITLOe CAPITAL LETTER OTe SMALL LETTER OT",
      "e CAPITAL LETTER KOPPAe SMALL LETTER KOPPAe THOUSANDS SIGNaCOMBINING CYRILLIC TITLO",
      "j PALATALIZATIONj DASIA PNEUMATAj PSILI PNEUMATAkOKRYTIEj HUNDRED THOUSANDS SIGN",
      "j MILLIONS SIGNaCYRILLIC CAPITAL LETTER SHORT I WITH TAIL",
      "e SMALL LETTER SHORT I WITH TAILe CAPITAL LETTER SEMISOFT SIGN",
      "e SMALL LETTER SEMISOFT SIGNe CAPITAL LETTER ER WITH TICKe SMALL LETTER ER WITH TICK",
      "e CAPITAL LETTER GHE WITH UPTURNe SMALL LETTER GHE WITH UPTURN",
      "e CAPITAL LETTER GHE WITH STROKEe SMALL LETTER GHE WITH STROKE",
      "e CAPITAL LETTER GHE WITH MIDDLE HOOKe SMALL LETTER GHE WITH MIDDLE HOOK",
      "e CAPITAL LETTER ZHE WITH DESCENDERe SMALL LETTER ZHE WITH DESCENDER",
      "e CAPITAL LETTER ZE WITH DESCENDERe SMALL LETTER ZE WITH DESCENDER",
      "e CAPITAL LETTER KA WITH DESCENDERe SMALL LETTER KA WITH DESCENDER",
      "e CAPITAL LETTER KA WITH VERTICAL STROKEe SMALL LETTER KA WITH VERTICAL STROKE",
      "e CAPITAL LETTER KA WITH STROKEe SMALL LETTER KA WITH STROKEe CAPITAL LETTER BASHKIR KA",
      "e SMALL LETTER BASHKIR KAe CAPITAL LETTER EN WITH DESCENDER",
      "e SMALL LETTER EN WITH DESCENDERe CAPITAL LIGATURE EN GHEe SMALL LIGATURE EN GHE",
      "e CAPITAL LETTER PE WITH MIDDLE HOOKe SMALL LETTER PE WITH MIDDLE HOOK",
      "e CAPITAL LETTER ABKHASIAN HAe SMALL LETTER ABKHASIAN HA",
      "e CAPITAL LETTER ES WITH DESCENDERe SMALL LETTER ES WITH DESCENDER",
      "e CAPITAL LETTER TE WITH DESCENDERe SMALL LETTER TE WITH DESCENDER",
      "e CAPITAL LETTER STRAIGHT Ue SMALL LETTER STRAIGHT U",
      "e CAPITAL LETTER STRAIGHT U WITH STROKEe SMALL LETTER STRAIGHT U WITH STROKE",
      "e CAPITAL LETTER HA WITH DESCENDERe SMALL LETTER HA WITH DESCENDER",
      "e CAPITAL LIGATURE TE TSEe SMALL LIGATURE TE TSEe CAPITAL LETTER CHE WITH DESCENDER",
      "e SMALL LETTER CHE WITH DESCENDERe CAPITAL LETTER CHE WITH VERTICAL STROKE",
      "e SMALL LETTER CHE WITH VERTICAL STROKEe CAPITAL LETTER SHHAe SMALL LETTER SHHA",
      "e CAPITAL LETTER ABKHASIAN CHEe SMALL LETTER ABKHASIAN CHE",
      "e CAPITAL LETTER ABKHASIAN CHE WITH DESCENDERe SMALL LETTER ABKHASIAN CHE WITH DESCENDER",
      "e LETTER PALOCHKAe CAPITAL LETTER ZHE WITH BREVEe SMALL LETTER ZHE WITH BREVE",
      "e CAPITAL LETTER KA WITH HOOKe SMALL LETTER KA WITH HOOKe CAPITAL LETTER EL WITH TAIL",
      "e SMALL LETTER EL WITH TAILe CAPITAL LETTER EN WITH HOOKe SMALL LETTER EN WITH HOOK",
      "e CAPITAL LETTER EN WITH TAILe SMALL LETTER EN WITH TAILe CAPITAL LETTER KHAKASSIAN CHE",
      "e SMALL LETTER KHAKASSIAN CHEe CAPITAL LETTER EM WITH TAILe SMALL LETTER EM WITH TAIL",
      "lPALOCHKAe CAPITAL LETTER A WITH BREVEe SMALL LETTER A WITH BREVE",
      "e CAPITAL LETTER A WITH DIAERESISe SMALL LETTER A WITH DIAERESISe CAPITAL LIGATURE A IE",
      "e SMALL LIGATURE A IEe CAPITAL LETTER IE WITH BREVEe SMALL LETTER IE WITH BREVE",
      "e CAPITAL LETTER SCHWAe SMALL LETTER SCHWAe CAPITAL LETTER SCHWA WITH DIAERESIS",
      "e SMALL LETTER SCHWA WITH DIAERESISe CAPITAL LETTER ZHE WITH DIAERESIS",
      "e SMALL LETTER ZHE WITH DIAERESISe CAPITAL LETTER ZE WITH DIAERESIS",
      "e SMALL LETTER ZE WITH DIAERESISe CAPITAL LETTER ABKHASIAN DZE",
      "e SMALL LETTER ABKHASIAN DZEe CAPITAL LETTER I WITH MACRONe SMALL LETTER I WITH MACRON",
      "e CAPITAL LETTER I WITH DIAERESISe SMALL LETTER I WITH DIAERESIS",
      "e CAPITAL LETTER O WITH DIAERESISe SMALL LETTER O WITH DIAERESIS",
      "e CAPITAL LETTER BARRED Oe SMALL LETTER BARRED Oe CAPITAL LETTER BARRED O WITH DIAERESIS",
      "e SMALL LETTER BARRED O WITH DIAERESISe CAPITAL LETTER E WITH DIAERESIS",
      "e SMALL LETTER E WITH DIAERESISe CAPITAL LETTER U WITH MACRON",
      "e SMALL LETTER U WITH MACRONe CAPITAL LETTER U WITH DIAERESIS",
      "e SMALL LETTER U WITH DIAERESISe CAPITAL LETTER U WITH DOUBLE ACUTE",
      "e SMALL LETTER U WITH DOUBLE ACUTEe CAPITAL LETTER CHE WITH DIAERESIS",
      "e SMALL LETTER CHE WITH DIAERESISe CAPITAL LETTER GHE WITH DESCENDER",
      "e SMALL LETTER GHE WITH DESCENDERe CAPITAL LETTER YERU WITH DIAERESIS",
      "e SMALL LETTER YERU WITH DIAERESISe CAPITAL LETTER GHE WITH STROKE AND HOOK",
      "e SMALL LETTER GHE WITH STROKE AND HOOKe CAPITAL LETTER HA WITH HOOK",
      "e SMALL LETTER HA WITH HOOKe CAPITAL LETTER HA WITH STROKEe SMALL LETTER HA WITH STROKE",
      "e CAPITAL LETTER KOMI DEe SMALL LETTER KOMI DEe CAPITAL LETTER KOMI DJE",
      "e SMALL LETTER KOMI DJEe CAPITAL LETTER KOMI ZJEe SMALL LETTER KOMI ZJE",
      "e CAPITAL LETTER KOMI DZJEe SMALL LETTER KOMI DZJEe CAPITAL LETTER KOMI LJE",
      "e SMALL LETTER KOMI LJEe CAPITAL LETTER KOMI NJEe SMALL LETTER KOMI NJE",
      "e CAPITAL LETTER KOMI SJEe SMALL LETTER KOMI SJEe CAPITAL LETTER KOMI TJE",
      "e SMALL LETTER KOMI TJEe CAPITAL LETTER REVERSED ZEe SMALL LETTER REVERSED ZE",
      "e CAPITAL LETTER EL WITH HOOKe SMALL LETTER EL WITH HOOKe CAPITAL LETTER LHA",
      "e SMALL LETTER LHAe CAPITAL LETTER RHAe SMALL LETTER RHAe CAPITAL LETTER YAE",
      "e SMALL LETTER YAEe CAPITAL LETTER QAe SMALL LETTER QAe CAPITAL LETTER WE",
      "e SMALL LETTER WEe CAPITAL LETTER ALEUT KAe SMALL LETTER ALEUT KA",
      "e CAPITAL LETTER EL WITH MIDDLE HOOKe SMALL LETTER EL WITH MIDDLE HOOK",
      "e CAPITAL LETTER EN WITH MIDDLE HOOKe SMALL LETTER EN WITH MIDDLE HOOK",
      "e CAPITAL LETTER PE WITH DESCENDERe SMALL LETTER PE WITH DESCENDER",
      "e CAPITAL LETTER SHHA WITH DESCENDERe SMALL LETTER SHHA WITH DESCENDER",
      "e CAPITAL LETTER EN WITH LEFT HOOKe SMALL LETTER EN WITH LEFT HOOKe CAPITAL LETTER DZZHE",
      "e SMALL LETTER DZZHEe CAPITAL LETTER DCHEe SMALL LETTER DCHE",
      "e CAPITAL LETTER EL WITH DESCENDERe SMALL LETTER EL WITH DESCENDER"]),
   (0x531,
     ["aARMENIAN CAPITAL LETTER AYBmBENmGIMmDAmECHmZAmEHmETmTOmZHEmINImLIWNmXEHmCAmKENmHOmJA",
      "mGHADmCHEHmMENmYImNOWmSHAmVOmCHAmPEHmJHEHmRAmSEHmVEWmTIWNmREHmCOmYIWNmPIWRmKEHmOHmFEH"]),
   (0x559,
     ["aARMENIAN MODIFIER LETTER LEFT HALF RINGe APOSTROPHEe EMPHASIS MARKfXCLAMATION MARK",
      "e COMMAe QUESTION MARKe ABBREVIATION MARKe SMALL LETTER TURNED AYBlAYBlBENlGIMlDAlECHlZA",
      "lEHlETlTOlZHElINIlLIWNlXEHlCAlKENlHOlJAlGHADlCHEHlMENlYIlNOWlSHAlVOlCHAlPEHlJHEHlRAlSEH",
      "lVEWlTIWNlREHlCOlYIWNlPIWRlKEHlOHlFEHiIGATURE ECH YIWNiETTER YI WITH STROKEe FULL STOP",
      "e HYPHEN"]),
   (0x58D,
     ["aRIGHT-FACING ARMENIAN ETERNITY SIGNaLEFT-FACING ARMENIAN ETERNITY SIGN",
      "aARMENIAN DRAM SIGN"]),
   (0x591,
     ["aHEBREW ACCENT ETNAHTAhSEGOLhSHALSHELEThZAQEF QATANkGADOLhTIPEHAhREVIAhZARQAhPASHTA",
      "hYETIVhTEVIRhGERESHk MUQDAMiRSHAYIMhQARNEY PARAhTELISHA GEDOLAhPAZERhATNAH HAFUKHhMUNAH",
      "hMAHAPAKHhMERKHAk KEFULAhDARGAhQADMAhTELISHA QETANAhYERAH BEN YOMOhOLEhILUYhDEHIhZINOR",
      "d MARK MASORA CIRCLEd POINT SHEVAg HATAF SEGOLj PATAHj QAMATShIRIQg TSEREg SEGOLg PATAH",
      "g QAMATSg HOLAMj HASER FOR VAVg QUBUTSg DAGESH OR MAPIQg METEGeUNCTUATION MAQAF",
      "eOINT RAFEeUNCTUATION PASEQeOINT SHIN DOThIN DOTeUNCTUATION SOF PASUQd MARK UPPER DOT",
      "gLOWER DOTd PUNCTUATION NUN HAFUKHAeOINT QAMATS QATAN"]),
   (0x5D0,
     ["aHEBREW LETTER ALEFhBEThGIMELhDALEThHEhVAVhZAYINhHEThTEThYODhFINAL KAFhKAFhLAMED",
      "hFINAL MEMhMEMhFINAL NUNhNUNhSAMEKHhAYINhFINAL PEhPEhFINAL TSADIhTSADIhQOFhRESHhSHINhTAV"]),
   (0x5EF,
     ["aHEBREW YOD TRIANGLEd LIGATURE YIDDISH DOUBLE VAVmVAV YODmDOUBLE YODd PUNCTUATION GERESH",
      "lSHAYIM"]),
   (0x600,
     ["aARABIC NUMBER SIGNd SIGN SANAHd FOOTNOTE MARKERd SIGN SAFHAhMVATd NUMBER MARK ABOVE",
      "d-INDIC CUBE ROOTg FOURTH ROOTd RAYd-INDIC PER MILLE SIGNi TEN THOUSAND SIGN",
      "aAFGHANI SIGNaARABIC COMMAd DATE SEPARATORd POETIC VERSE SIGNd SIGN MISRA",
      "gSALLALLAHOU ALAYHE WASSALLAMgALAYHE ASSALLAMgRAHMATULLAH ALAYHEhDI ALLAHOU ANHU",
      "gTAKHALLUSeMALL HIGH TAHjLIGATURE ALEF WITH LAM WITH YEHjZAINg FATHAg DAMMAg KASRA",
      "eEMICOLONd LETTER MARKd END OF TEXT MARKd TRIPLE DOT PUNCTUATION MARKd QUESTION MARK",
      "d LETTER KASHMIRI YEHhHAMZAhALEF WITH MADDA ABOVEmHAMZA ABOVEhWAW WITH HAMZA ABOVE",
      "hALEF WITH HAMZA BELOWhYEH WITH HAMZA ABOVEhALEFhBEHhTEH MARBUTAiHhTHEHhJEEMhHAHhKHAH",
      "hDALhTHALhREHhZAINhSEENhSHEENhSADhDADhTAHhZAHhAINhGHAINhKEHEH WITH TWO DOTS ABOVE",
      "nHREE DOTS BELOWhFARSI YEH WITH INVERTED Vo TWO DOTS ABOVEpHREE DOTS ABOVEd TATWEEL",
      "d LETTER FEHhQAFhKAFhLAMhMEEMhNOONhHEHhWAWhALEF MAKSURAhYEHd FATHATANd DAMMATAN",
      "d KASRATANd FATHAd DAMMAd KASRAd SHADDAeUKUNd MADDAH ABOVEd HAMZA ABOVEg BELOW",
      "d SUBSCRIPT ALEFd INVERTED DAMMAd MARK NOON GHUNNAd ZWARAKAYd VOWEL SIGN SMALL V ABOVE",
      "jINVERTED SMALL V ABOVEjDOT BELOWd REVERSED DAMMAd FATHA WITH TWO DOTSd WAVY HAMZA BELOW",
      "d-INDIC DIGIT ZEROj ONEj TWOkHREEj FOURkIVEj SIXkEVENj EIGHTj NINEd PERCENT SIGN",
      "d DECIMAL SEPARATORd THOUSANDS SEPARATORd FIVE POINTED STARd LETTER DOTLESS BEHlQAF",
      "hSUPERSCRIPT ALEFhALEF WASLAkITH WAVY HAMZA ABOVEr BELOWhHIGH HAMZAm ALEFm WAW",
      "hU WITH HAMZA ABOVEhHIGH HAMZA YEHhTTEHjEHhBEEHhTEH WITH RING",
      "l THREE DOTS ABOVE DOWNWARDShPEHhTEHEHhBEHEHhHAH WITH HAMZA ABOVE",
      "l TWO DOTS VERTICAL ABOVEhNYEHhDYEHhHAH WITH THREE DOTS ABOVEhTCHEHjHEHhDDAL",
      "hDAL WITH RINGl DOT BELOWq AND SMALL TAHiHALhDDAHALhDUL",
      "hDAL WITH THREE DOTS ABOVE DOWNWARDSl FOUR DOTS ABOVEhRREHhREH WITH SMALL Vl RING",
      "l DOT BELOWl SMALL V BELOWl DOT BELOW AND DOT ABOVEl TWO DOTS ABOVEhJEH",
      "hREH WITH FOUR DOTS ABOVEhSEEN WITH DOT BELOW AND DOT ABOVEmTHREE DOTS BELOW",
      "u AND THREE DOTS ABOVEhSAD WITH TWO DOTS BELOWmHREE DOTS ABOVEhTAH WITH THREE DOTS ABOVE",
      "hAIN WITH THREE DOTS ABOVEhDOTLESS FEHhFEH WITH DOT MOVED BELOWn BELOWhVEH",
      "hFEH WITH THREE DOTS BELOWhPEHEHhQAF WITH DOT ABOVEl THREE DOTS ABOVEhKEHEHhSWASH KAF",
      "hKAF WITH RINGl DOT ABOVEhNGhKAF WITH THREE DOTS BELOWhGAFiF WITH RINGhNGOEH",
      "hGAF WITH TWO DOTS BELOWhGUEHhGAF WITH THREE DOTS ABOVEhLAM WITH SMALL Vl DOT ABOVE",
      "l THREE DOTS ABOVErBELOWhNOON WITH DOT BELOWj GHUNNAhRNOONhNOON WITH RING",
      "mTHREE DOTS ABOVEhHEH DOACHASHMEEhTCHEH WITH DOT ABOVEhHEH WITH YEH ABOVEjGOAL",
      "l WITH HAMZA ABOVEhTEH MARBUTA GOALhWAW WITH RINGhKIRGHIZ OEhOEhUhYUhKIRGHIZ YU",
      "hWAW WITH TWO DOTS ABOVEhVEhFARSI YEHhYEH WITH TAILl SMALL VhWAW WITH DOT ABOVEhE",
      "hYEH WITH THREE DOTS BELOWjBARREEm WITH HAMZA ABOVEd FULL STOPd LETTER AE",
      "d SMALL HIGH LIGATURE SAD WITH LAM WITH ALEF MAKSURAn QAF WITH LAM WITH ALEF MAKSURA",
      "jMEEM INITIAL FORMjLAM ALEFjJEEMjTHREE DOTSjSEENd END OF AYAHd START OF RUB EL HIZB",
      "eMALL HIGH ROUNDED ZEROjUPRIGHT RECTANGULAR ZEROjDOTLESS HEAD OF KHAHjMEEM ISOLATED FORM",
      "g LOW SEENg HIGH MADDAg WAWg YEHg HIGH YEHjNOONd PLACE OF SAJDAHd EMPTY CENTRE LOW STOP",
      "kHIGH STOPd ROUNDED HIGH STOP WITH FILLED CENTREd SMALL LOW MEEM",
      "d LETTER DAL WITH INVERTED VhREH WITH INVERTED VaEXTENDED ARABIC-INDIC DIGIT ZEROoONE",
      "oTWOoTHREEoFOURoFIVEoSIXoSEVENoEIGHToNINEaARABIC LETTER SHEEN WITH DOT BELOW",
      "hDAD WITH DOT BELOWhGHAIN WITH DOT BELOWd SIGN SINDHI AMPERSANDj POSTPOSITION MEN",
      "d LETTER HEH WITH INVERTED VaSYRIAC END OF PARAGRAPHd SUPRALINEAR FULL STOP",
      "eUBLINEAR FULL STOPeUPRALINEAR COLONeUBLINEAR COLONd HORIZONTAL COLONd COLON SKEWED LEFT",
      "kRIGHTd SUPRALINEAR COLON SKEWED LEFTeUBLINEAR COLON SKEWED RIGHTd CONTRACTION",
      "d HARKLEAN OBELUSiMETOBELUSiASTERISCUS"]),
   (0x70F,
     ["aSYRIAC ABBREVIATION MARKd LETTER ALAPHhSUPERSCRIPT ALAPHhBETHhGAMALjL GARSHUNIhDALATH",
      "hDOTLESS DALATH RISHhHEhWAWhZAINhHETHhTETHj GARSHUNIhYUDHj HEhKAPHhLAMADHhMIMhNUN",
      "hSEMKATHhFINAL SEMKATHhEhPEhREVERSED PEhSADHEhQAPHhRISHhSHINhTAWhPERSIAN BHETHlGHAMAL",
      "lDHALATHd PTHAHA ABOVEhBELOWhDOTTEDd ZQAPHA ABOVEhBELOWhDOTTEDd RBASA ABOVEg BELOW",
      "d DOTTED ZLAMA HORIZONTALkANGULARd HBASA ABOVEg BELOWg-ESASA DOTTEDd ESASA ABOVEg BELOW",
      "d RWAHAd FEMININE DOTd QUSHSHAYAd RUKKAKHAd TWO VERTICAL DOTS ABOVEm BELOW",
      "eHREE DOTS ABOVEjBELOWd OBLIQUE LINE ABOVEkBELOWd MUSICd BARREKH"]),
   (0x74D,
     ["aSYRIAC LETTER SOGDIAN ZHAINlKHAPHlFE",
      "aARABIC LETTER BEH WITH THREE DOTS HORIZONTALLY BELOWl DOT BELOW AND THREE DOTS ABOVE",
      "l THREE DOTS POINTING UPWARDS BELOWz BELOW AND TWO DOTS ABOVE",
      "mWO DOTS BELOW AND DOT ABOVEl INVERTED SMALL V BELOWl SMALL VhHAH WITH TWO DOTS ABOVE",
      "mHREE DOTS POINTING UPWARDS BELOWhDAL WITH TWO DOTS VERTICALLY BELOW AND SMALL TAH",
      "l INVERTED SMALL V BELOWhREH WITH STROKEhSEEN WITH FOUR DOTS ABOVE",
      "hAIN WITH TWO DOTS ABOVEmHREE DOTS POINTING DOWNWARDS ABOVEmWO DOTS VERTICALLY ABOVE",
      "hFEH WITH TWO DOTS BELOWmHREE DOTS POINTING UPWARDS BELOWhKEHEH WITH DOT ABOVE",
      "m THREE DOTS ABOVEsPOINTING UPWARDS BELOWhMEEM WITH DOT ABOVEoBELOW",
      "hNOON WITH TWO DOTS BELOWmSMALL TAHpVhLAM WITH BARhREH WITH TWO DOTS VERTICALLY ABOVE",
      "l HAMZA ABOVEhSEEN WITH TWO DOTS VERTICALLY ABOVEhHAH WITH SMALL ARABIC LETTER TAH BELOW",
      "x AND TWO DOTShSEEN WITH SMALL ARABIC LETTER TAH AND TWO DOTS",
      "hREH WITH SMALL ARABIC LETTER TAH AND TWO DOTShHAH WITH SMALL ARABIC LETTER TAH ABOVE",
      "hALEF WITH EXTENDED ARABIC-INDIC DIGIT TWO ABOVEzT THREE ABOVE",
      "hFARSI YEH WITH EXTENDED ARABIC-INDIC DIGIT TWO ABOVEz DIGIT THREE ABOVE",
      "z DIGIT FOUR BELOWhWAW WITH EXTENDED ARABIC-INDIC DIGIT TWO ABOVEz THREE ABOVE",
      "hYEH BARREE WITH EXTENDED ARABIC-INDIC DIGIT TWO ABOVEzC DIGIT THREE ABOVE",
      "hHAH WITH EXTENDED ARABIC-INDIC DIGIT FOUR BELOW",
      "hSEEN WITH EXTENDED ARABIC-INDIC DIGIT FOUR ABOVEmINVERTED VhKAF WITH TWO DOTS ABOVE",
      "aTHAANA LETTER HAAhSHAVIYANIhNOONUhRAAhBAAhLHAVIYANIhKAAFUhALIFUhVAAVUhMEEMUhFAAFU",
      "hDHAALUhTHAAhLAAMUhGAAFUhGNAVIYANIhSEENUhDAVIYANIhZAVIYANIhTAVIYANIhYAAhPAVIYANI",
      "hJAVIYANIhCHAVIYANIhTTAAhHHAAhKHAAhTHAALUhZAAhSHEENUhSAADHUhDAADHUhTOhZOhAINUhGHAINU",
      "hQAAFUhWAAVUd ABAFILIeABAAFILId IBIFILId EEBEEFILId UBUFILId OOBOOFILId EBEFILIeYBEYFILI",
      "d OBOFILIeABOAFILId SUKUNd LETTER NAA"]),
   (0x7C0,
     ["aNKO DIGIT ZEROfONEfTWOfTHREEfFOURfFIVEfSIXfSEVENfEIGHTfNINEcLETTER Af EEf If Ef Uf OOg",
      "f DAGBASINNAf Nf BAf PAf TAf JAf CHAf DAf RAgRAf SAf GBAf FAf KAf LAf NA WOLOSOf MAf NYA",
      "gAf HAf WAf YAf NYA WOLOSOf JONA JAiCHAiRAcCOMBINING SHORT HIGH TONEkLOW TONE",
      "kRISING TONEhLONG DESCENDING TONEj HIGH TONEj LOW TONEj RISING TONEhNASALIZATION MARK",
      "hDOUBLE DOT ABOVEcHIGH TONE APOSTROPHEcLOW TONE APOSTROPHEcSYMBOL OO DENNENf GBAKURUNEN",
      "cCOMMAcEXCLAMATION MARKcLAJANYALAN"]),
   (0x7FD, ["aNKO DANTAYALANcDOROME SIGNcTAMAN SIGN"])]

end TreeQuote.CharacterName

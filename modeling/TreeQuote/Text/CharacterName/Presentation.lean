/-
TreeQuote/Text/CharacterName/Presentation.lean

The names of presentation forms, in runs of code points with
names.  How a run is written is said where runs are read.
-/

namespace TreeQuote.CharacterName

/-- Runs of names of presentation forms. -/
def presentation : List (Nat × List String) :=
  [(0xFB00, ["aLATIN SMALL LIGATURE FFlIlLlFIlFLk LONG S Tk ST"]),
   (0xFB13, ["aARMENIAN SMALL LIGATURE MEN NOWoECHoINImVEW NOWmMEN XEH"]),
   (0xFB1D,
     ["aHEBREW LETTER YOD WITH HIRIQd POINT JUDEO-SPANISH VARIKA",
      "d LIGATURE YIDDISH YOD YOD PATAHeETTER ALTERNATIVE AYINhWIDE ALEFj DALETj HEj KAFj LAMED",
      "j FINAL MEMj RESHj TAVhALTERNATIVE PLUS SIGNhSHIN WITH SHIN DOTmSIN DOT",
      "mDAGESH AND SHIN DOTsIN DOThALEF WITH PATAHmQAMATSmMAPIQhBET WITH DAGESH",
      "hGIMEL WITH DAGESHhDALET WITH DAGESHhHE WITH MAPIQhVAV WITH DAGESHhZAYIN WITH DAGESH"]),
   (0xFB38,
     ["aHEBREW LETTER TET WITH DAGESHhYOD WITH DAGESHhFINAL KAF WITH DAGESHhKAF WITH DAGESH",
      "hLAMED WITH DAGESH"]),
   (0xFB3E, ["aHEBREW LETTER MEM WITH DAGESH"]),
   (0xFB40, ["aHEBREW LETTER NUN WITH DAGESHhSAMEKH WITH DAGESH"]),
   (0xFB43, ["aHEBREW LETTER FINAL PE WITH DAGESHhPE WITH DAGESH"]),
   (0xFB46,
     ["aHEBREW LETTER TSADI WITH DAGESHhQOF WITH DAGESHhRESH WITH DAGESHhSHIN WITH DAGESH",
      "hTAV WITH DAGESHhVAV WITH HOLAMhBET WITH RAFEhKAF WITH RAFEhPE WITH RAFE",
      "eIGATURE ALEF LAMEDaARABIC LETTER ALEF WASLA ISOLATED FORMm FINAL FORM",
      "hBEEH ISOLATED FORMj FINAL FORMj INITIAL FORMj MEDIAL FORMhPEH ISOLATED FORMjFINAL FORM",
      "jINITIAL FORMjMEDIAL FORMhBEHEH ISOLATED FORMkFINAL FORMkINITIAL FORMkMEDIAL FORM",
      "hTTEHEH ISOLATED FORMk FINAL FORMk INITIAL FORMk MEDIAL FORMhTEHEH ISOLATED FORM",
      "kFINAL FORMkINITIAL FORMkMEDIAL FORMhTTEH ISOLATED FORMj FINAL FORMj INITIAL FORM",
      "j MEDIAL FORMhVEH ISOLATED FORMjFINAL FORMjINITIAL FORMjMEDIAL FORMhPEHEH ISOLATED FORM",
      "kFINAL FORMkINITIAL FORMkMEDIAL FORMhDYEH ISOLATED FORMj FINAL FORMj INITIAL FORM",
      "j MEDIAL FORMhNYEH ISOLATED FORMj FINAL FORMj INITIAL FORMj MEDIAL FORM",
      "hTCHEH ISOLATED FORMkFINAL FORMkINITIAL FORMkMEDIAL FORMjHEH ISOLATED FORMlFINAL FORM",
      "lINITIAL FORMlMEDIAL FORMhDDAHAL ISOLATED FORMk FINAL FORMhDAHAL ISOLATED FORM",
      "kFINAL FORMhDUL ISOLATED FORMjFINAL FORMhDDAL ISOLATED FORMj FINAL FORM",
      "hJEH ISOLATED FORMjFINAL FORMhRREH ISOLATED FORMj FINAL FORMhKEHEH ISOLATED FORM",
      "kFINAL FORMkINITIAL FORMkMEDIAL FORMhGAF ISOLATED FORMjFINAL FORMjINITIAL FORM",
      "jMEDIAL FORMhGUEH ISOLATED FORMj FINAL FORMj INITIAL FORMj MEDIAL FORM",
      "hNGOEH ISOLATED FORMkFINAL FORMkINITIAL FORMkMEDIAL FORMhNOON GHUNNA ISOLATED FORM",
      "nFINAL FORMhRNOON ISOLATED FORMkFINAL FORMkINITIAL FORMkMEDIAL FORM",
      "hHEH WITH YEH ABOVE ISOLATED FORMq FINAL FORMjGOAL ISOLATED FORMl FINAL FORM",
      "l INITIAL FORMl MEDIAL FORMjDOACHASHMEE ISOLATED FORMpFINAL FORMpINITIAL FORM",
      "pMEDIAL FORMhYEH BARREE ISOLATED FORMm FINAL FORMm WITH HAMZA ABOVE ISOLATED FORM",
      "vFINAL FORMd SYMBOL DOT ABOVEjBELOWhTWO DOTS ABOVEl BELOWhTHREE DOTS ABOVEm BELOW",
      "m POINTING DOWNWARDS ABOVEwBELOWhFOUR DOTS ABOVEmBELOWhDOUBLE VERTICAL BAR BELOW",
      "hTWO DOTS VERTICALLY ABOVErBELOWhRINGhSMALL TAH ABOVEmBELOWhWASLA ABOVE"]),
   (0xFBD3,
     ["aARABIC LETTER NG ISOLATED FORMi FINAL FORMi INITIAL FORMi MEDIAL FORMhU ISOLATED FORM",
      "iFINAL FORMhOE ISOLATED FORMi FINAL FORMhYU ISOLATED FORMi FINAL FORM",
      "hU WITH HAMZA ABOVE ISOLATED FORMhVE ISOLATED FORMi FINAL FORMhKIRGHIZ OE ISOLATED FORM",
      "m FINAL FORMlYU ISOLATED FORMm FINAL FORMhE ISOLATED FORMiFINAL FORMiINITIAL FORM",
      "iMEDIAL FORMhUIGHUR KAZAKH KIRGHIZ ALEF MAKSURA INITIAL FORMy MEDIAL FORM",
      "eIGATURE YEH WITH HAMZA ABOVE WITH ALEF ISOLATED FORMx FINAL FORMvAE ISOLATED FORM",
      "w FINAL FORMvWAW ISOLATED FORMxFINAL FORMvU ISOLATED FORMwFINAL FORMvOE ISOLATED FORM",
      "w FINAL FORMvYU ISOLATED FORMw FINAL FORMvE ISOLATED FORMwFINAL FORMwINITIAL FORM",
      "iUIGHUR KIRGHIZ YEH WITH HAMZA ABOVE WITH ALEF MAKSURA ISOLATED FORM",
      "zE WITH ALEF MAKSURA FINAL FORMzE WITH ALEF MAKSURA INITIAL FORM",
      "eETTER FARSI YEH ISOLATED FORMmFINAL FORMmINITIAL FORMmMEDIAL FORM",
      "eIGATURE YEH WITH HAMZA ABOVE WITH JEEM ISOLATED FORMvHAH ISOLATED FORM",
      "vMEEM ISOLATED FORMvALEF MAKSURA ISOLATED FORMvYEH ISOLATED FORM",
      "iBEH WITH JEEM ISOLATED FORMm HAH ISOLATED FORMm KHAH ISOLATED FORMm MEEM ISOLATED FORM",
      "m ALEF MAKSURA ISOLATED FORMm YEH ISOLATED FORMiTEH WITH JEEM ISOLATED FORM",
      "m HAH ISOLATED FORMm KHAH ISOLATED FORMm MEEM ISOLATED FORMm ALEF MAKSURA ISOLATED FORM",
      "m YEH ISOLATED FORMiTHEH WITH JEEM ISOLATED FORMnMEEM ISOLATED FORM",
      "nALEF MAKSURA ISOLATED FORMnYEH ISOLATED FORMiJEEM WITH HAH ISOLATED FORM",
      "nMEEM ISOLATED FORMiHAH WITH JEEM ISOLATED FORMm MEEM ISOLATED FORM",
      "iKHAH WITH JEEM ISOLATED FORMnHAH ISOLATED FORMnMEEM ISOLATED FORM",
      "iSEEN WITH JEEM ISOLATED FORMnHAH ISOLATED FORMnKHAH ISOLATED FORMnMEEM ISOLATED FORM",
      "iSAD WITH HAH ISOLATED FORMm MEEM ISOLATED FORMiDAD WITH JEEM ISOLATED FORM",
      "m HAH ISOLATED FORMm KHAH ISOLATED FORMm MEEM ISOLATED FORMiTAH WITH HAH ISOLATED FORM",
      "m MEEM ISOLATED FORMiZAH WITH MEEM ISOLATED FORMiAIN WITH JEEM ISOLATED FORM",
      "m MEEM ISOLATED FORMiGHAIN WITH JEEM ISOLATED FORMn MEEM ISOLATED FORM",
      "iFEH WITH JEEM ISOLATED FORMm HAH ISOLATED FORMm KHAH ISOLATED FORMm MEEM ISOLATED FORM",
      "m ALEF MAKSURA ISOLATED FORMm YEH ISOLATED FORMiQAF WITH HAH ISOLATED FORM",
      "m MEEM ISOLATED FORMm ALEF MAKSURA ISOLATED FORMm YEH ISOLATED FORM",
      "iKAF WITH ALEF ISOLATED FORMm JEEM ISOLATED FORMm HAH ISOLATED FORMm KHAH ISOLATED FORM",
      "m LAM ISOLATED FORMm MEEM ISOLATED FORMm ALEF MAKSURA ISOLATED FORMm YEH ISOLATED FORM",
      "iLAM WITH JEEM ISOLATED FORMm HAH ISOLATED FORMm KHAH ISOLATED FORMm MEEM ISOLATED FORM",
      "m ALEF MAKSURA ISOLATED FORMm YEH ISOLATED FORMiMEEM WITH JEEM ISOLATED FORM",
      "nHAH ISOLATED FORMnKHAH ISOLATED FORMnMEEM ISOLATED FORMnALEF MAKSURA ISOLATED FORM",
      "nYEH ISOLATED FORMiNOON WITH JEEM ISOLATED FORMnHAH ISOLATED FORMnKHAH ISOLATED FORM",
      "nMEEM ISOLATED FORMnALEF MAKSURA ISOLATED FORMnYEH ISOLATED FORM",
      "iHEH WITH JEEM ISOLATED FORMm MEEM ISOLATED FORMm ALEF MAKSURA ISOLATED FORM",
      "m YEH ISOLATED FORMiYEH WITH JEEM ISOLATED FORMm HAH ISOLATED FORMm KHAH ISOLATED FORM",
      "m MEEM ISOLATED FORMm ALEF MAKSURA ISOLATED FORMm YEH ISOLATED FORM",
      "iTHAL WITH SUPERSCRIPT ALEF ISOLATED FORMiREH WITH SUPERSCRIPT ALEF ISOLATED FORM",
      "iALEF MAKSURA WITH SUPERSCRIPT ALEF ISOLATED FORMiSHADDA WITH DAMMATAN ISOLATED FORM",
      "oKASRATAN ISOLATED FORMoFATHA ISOLATED FORMoDAMMA ISOLATED FORMoKASRA ISOLATED FORM",
      "oSUPERSCRIPT ALEF ISOLATED FORMiYEH WITH HAMZA ABOVE WITH REH FINAL FORMvZAIN FINAL FORM",
      "vMEEM FINAL FORMvNOON FINAL FORMvALEF MAKSURA FINAL FORMvYEH FINAL FORM",
      "iBEH WITH REH FINAL FORMm ZAIN FINAL FORMm MEEM FINAL FORMm NOON FINAL FORM",
      "m ALEF MAKSURA FINAL FORMm YEH FINAL FORMiTEH WITH REH FINAL FORMm ZAIN FINAL FORM",
      "m MEEM FINAL FORMm NOON FINAL FORMm ALEF MAKSURA FINAL FORMm YEH FINAL FORM",
      "iTHEH WITH REH FINAL FORMnZAIN FINAL FORMnMEEM FINAL FORMnNOON FINAL FORM",
      "nALEF MAKSURA FINAL FORMnYEH FINAL FORMiFEH WITH ALEF MAKSURA FINAL FORMm YEH FINAL FORM",
      "iQAF WITH ALEF MAKSURA FINAL FORMm YEH FINAL FORMiKAF WITH ALEF FINAL FORM",
      "m LAM FINAL FORMm MEEM FINAL FORMm ALEF MAKSURA FINAL FORMm YEH FINAL FORM",
      "iLAM WITH MEEM FINAL FORMm ALEF MAKSURA FINAL FORMm YEH FINAL FORM",
      "iMEEM WITH ALEF FINAL FORMnMEEM FINAL FORMiNOON WITH REH FINAL FORMnZAIN FINAL FORM",
      "nMEEM FINAL FORMnNOON FINAL FORMnALEF MAKSURA FINAL FORMnYEH FINAL FORM",
      "iALEF MAKSURA WITH SUPERSCRIPT ALEF FINAL FORMiYEH WITH REH FINAL FORMm ZAIN FINAL FORM",
      "m MEEM FINAL FORMm NOON FINAL FORMm ALEF MAKSURA FINAL FORMm YEH FINAL FORM",
      "m HAMZA ABOVE WITH JEEM INITIAL FORMvHAH INITIAL FORMvKHAH INITIAL FORM",
      "vMEEM INITIAL FORMvHEH INITIAL FORMiBEH WITH JEEM INITIAL FORMm HAH INITIAL FORM",
      "m KHAH INITIAL FORMm MEEM INITIAL FORMm HEH INITIAL FORMiTEH WITH JEEM INITIAL FORM",
      "m HAH INITIAL FORMm KHAH INITIAL FORMm MEEM INITIAL FORMm HEH INITIAL FORM",
      "iTHEH WITH MEEM INITIAL FORMiJEEM WITH HAH INITIAL FORMnMEEM INITIAL FORM",
      "iHAH WITH JEEM INITIAL FORMm MEEM INITIAL FORMiKHAH WITH JEEM INITIAL FORM",
      "nMEEM INITIAL FORMiSEEN WITH JEEM INITIAL FORMnHAH INITIAL FORMnKHAH INITIAL FORM",
      "nMEEM INITIAL FORMiSAD WITH HAH INITIAL FORMm KHAH INITIAL FORMm MEEM INITIAL FORM",
      "iDAD WITH JEEM INITIAL FORMm HAH INITIAL FORMm KHAH INITIAL FORMm MEEM INITIAL FORM",
      "iTAH WITH HAH INITIAL FORMiZAH WITH MEEM INITIAL FORMiAIN WITH JEEM INITIAL FORM",
      "m MEEM INITIAL FORMiGHAIN WITH JEEM INITIAL FORMn MEEM INITIAL FORM",
      "iFEH WITH JEEM INITIAL FORMm HAH INITIAL FORMm KHAH INITIAL FORMm MEEM INITIAL FORM",
      "iQAF WITH HAH INITIAL FORMm MEEM INITIAL FORMiKAF WITH JEEM INITIAL FORM",
      "m HAH INITIAL FORMm KHAH INITIAL FORMm LAM INITIAL FORMm MEEM INITIAL FORM",
      "iLAM WITH JEEM INITIAL FORMm HAH INITIAL FORMm KHAH INITIAL FORMm MEEM INITIAL FORM",
      "m HEH INITIAL FORMiMEEM WITH JEEM INITIAL FORMnHAH INITIAL FORMnKHAH INITIAL FORM",
      "nMEEM INITIAL FORMiNOON WITH JEEM INITIAL FORMnHAH INITIAL FORMnKHAH INITIAL FORM",
      "nMEEM INITIAL FORMnHEH INITIAL FORMiHEH WITH JEEM INITIAL FORMm MEEM INITIAL FORM",
      "m SUPERSCRIPT ALEF INITIAL FORMiYEH WITH JEEM INITIAL FORMm HAH INITIAL FORM",
      "m KHAH INITIAL FORMm MEEM INITIAL FORMm HEH INITIAL FORM",
      "nAMZA ABOVE WITH MEEM MEDIAL FORMvHEH MEDIAL FORMiBEH WITH MEEM MEDIAL FORM",
      "m HEH MEDIAL FORMiTEH WITH MEEM MEDIAL FORMm HEH MEDIAL FORMiTHEH WITH MEEM MEDIAL FORM",
      "nHEH MEDIAL FORMiSEEN WITH MEEM MEDIAL FORMnHEH MEDIAL FORMiSHEEN WITH MEEM MEDIAL FORM",
      "n HEH MEDIAL FORMiKAF WITH LAM MEDIAL FORMm MEEM MEDIAL FORMiLAM WITH MEEM MEDIAL FORM",
      "iNOON WITH MEEM MEDIAL FORMnHEH MEDIAL FORMiYEH WITH MEEM MEDIAL FORMm HEH MEDIAL FORM",
      "iSHADDA WITH FATHA MEDIAL FORMoDAMMA MEDIAL FORMoKASRA MEDIAL FORM",
      "iTAH WITH ALEF MAKSURA ISOLATED FORMm YEH ISOLATED FORM",
      "iAIN WITH ALEF MAKSURA ISOLATED FORMm YEH ISOLATED FORM",
      "iGHAIN WITH ALEF MAKSURA ISOLATED FORMn YEH ISOLATED FORM",
      "iSEEN WITH ALEF MAKSURA ISOLATED FORMnYEH ISOLATED FORM",
      "iSHEEN WITH ALEF MAKSURA ISOLATED FORMn YEH ISOLATED FORM",
      "iHAH WITH ALEF MAKSURA ISOLATED FORMm YEH ISOLATED FORM",
      "iJEEM WITH ALEF MAKSURA ISOLATED FORMnYEH ISOLATED FORM",
      "iKHAH WITH ALEF MAKSURA ISOLATED FORMnYEH ISOLATED FORM",
      "iSAD WITH ALEF MAKSURA ISOLATED FORMm YEH ISOLATED FORM",
      "iDAD WITH ALEF MAKSURA ISOLATED FORMm YEH ISOLATED FORMiSHEEN WITH JEEM ISOLATED FORM",
      "n HAH ISOLATED FORMn KHAH ISOLATED FORMn MEEM ISOLATED FORMn REH ISOLATED FORM",
      "iSEEN WITH REH ISOLATED FORMiSAD WITH REH ISOLATED FORMiDAD WITH REH ISOLATED FORM",
      "iTAH WITH ALEF MAKSURA FINAL FORMm YEH FINAL FORMiAIN WITH ALEF MAKSURA FINAL FORM",
      "m YEH FINAL FORMiGHAIN WITH ALEF MAKSURA FINAL FORMn YEH FINAL FORM",
      "iSEEN WITH ALEF MAKSURA FINAL FORMnYEH FINAL FORMiSHEEN WITH ALEF MAKSURA FINAL FORM",
      "n YEH FINAL FORMiHAH WITH ALEF MAKSURA FINAL FORMm YEH FINAL FORM",
      "iJEEM WITH ALEF MAKSURA FINAL FORMnYEH FINAL FORMiKHAH WITH ALEF MAKSURA FINAL FORM",
      "nYEH FINAL FORMiSAD WITH ALEF MAKSURA FINAL FORMm YEH FINAL FORM",
      "iDAD WITH ALEF MAKSURA FINAL FORMm YEH FINAL FORMiSHEEN WITH JEEM FINAL FORM",
      "n HAH FINAL FORMn KHAH FINAL FORMn MEEM FINAL FORMn REH FINAL FORM",
      "iSEEN WITH REH FINAL FORMiSAD WITH REH FINAL FORMiDAD WITH REH FINAL FORM",
      "iSHEEN WITH JEEM INITIAL FORMn HAH INITIAL FORMn KHAH INITIAL FORMn MEEM INITIAL FORM",
      "iSEEN WITH HEH INITIAL FORMiSHEEN WITH HEH INITIAL FORMiTAH WITH MEEM INITIAL FORM",
      "iSEEN WITH JEEM MEDIAL FORMnHAH MEDIAL FORMnKHAH MEDIAL FORMiSHEEN WITH JEEM MEDIAL FORM",
      "n HAH MEDIAL FORMn KHAH MEDIAL FORMiTAH WITH MEEM MEDIAL FORMiZAH WITH MEEM MEDIAL FORM",
      "iALEF WITH FATHATAN FINAL FORMr ISOLATED FORMaORNATE LEFT PARENTHESISd RIGHT PARENTHESIS",
      "aARABIC LIGATURE RAHIMAHU ALLAAHjDI ALLAAHU ANHqAAqUMrAAqUNNA",
      "iSALLALLAAHU ALAYHI WA-AALIHiALAYHI AS-SALAAMlM AS-SALAAMlMAA AS-SALAAM",
      "l AS-SALAATU WAS-SALAAMiQUDDISA SIRRAHiSALLALLAHU ALAYHI WAAALIHEE WA-SALLAM",
      "iALAYHAA AS-SALAAMiTABAARAKA WA-TAAALAAiRAHIMAHUM ALLAAH",
      "iTEH WITH JEEM WITH MEEM INITIAL FORMm HAH WITH JEEM FINAL FORMt INITIAL FORM",
      "rMEEM INITIAL FORMm KHAH WITH MEEM INITIAL FORMm MEEM WITH JEEM INITIAL FORM",
      "r HAH INITIAL FORMr KHAH INITIAL FORMiJEEM WITH MEEM WITH HAH FINAL FORMuINITIAL FORM",
      "iHAH WITH MEEM WITH YEH FINAL FORMr ALEF MAKSURA FINAL FORM",
      "iSEEN WITH HAH WITH JEEM INITIAL FORMnJEEM WITH HAH INITIAL FORMsALEF MAKSURA FINAL FORM",
      "nMEEM WITH HAH FINAL FORMuINITIAL FORMsJEEM INITIAL FORMsMEEM FINAL FORMu INITIAL FORM",
      "iSAD WITH HAH WITH HAH FINAL FORMtINITIAL FORMm MEEM WITH MEEM FINAL FORM",
      "iSHEEN WITH HAH WITH MEEM FINAL FORMu INITIAL FORMn JEEM WITH YEH FINAL FORM",
      "n MEEM WITH KHAH FINAL FORMvINITIAL FORMs MEEM FINAL FORMvINITIAL FORM",
      "iDAD WITH HAH WITH ALEF MAKSURA FINAL FORMm KHAH WITH MEEM FINAL FORMuINITIAL FORM",
      "iTAH WITH MEEM WITH HAH FINAL FORMt INITIAL FORMr MEEM INITIAL FORMr YEH FINAL FORM",
      "iAIN WITH JEEM WITH MEEM FINAL FORMm MEEM WITH MEEM FINAL FORMuINITIAL FORM",
      "r ALEF MAKSURA FINAL FORMiGHAIN WITH MEEM WITH MEEM FINAL FORMs YEH FINAL FORM",
      "s ALEF MAKSURA FINAL FORMiFEH WITH KHAH WITH MEEM FINAL FORMuINITIAL FORM",
      "iQAF WITH MEEM WITH HAH FINAL FORMr MEEM FINAL FORMiLAM WITH HAH WITH MEEM FINAL FORM",
      "rYEH FINAL FORMrALEF MAKSURA FINAL FORMm JEEM WITH JEEM INITIAL FORMuFINAL FORM",
      "m KHAH WITH MEEM FINAL FORMuINITIAL FORMm MEEM WITH HAH FINAL FORMt INITIAL FORM",
      "iMEEM WITH HAH WITH JEEM INITIAL FORMr MEEM INITIAL FORMr YEH FINAL FORM",
      "nJEEM WITH HAH INITIAL FORMsMEEM INITIAL FORMnKHAH WITH JEEM INITIAL FORM",
      "sMEEM INITIAL FORM"]),
   (0xFD92,
     ["aARABIC LIGATURE MEEM WITH JEEM WITH KHAH INITIAL FORM",
      "iHEH WITH MEEM WITH JEEM INITIAL FORMr MEEM INITIAL FORM",
      "iNOON WITH HAH WITH MEEM INITIAL FORMr ALEF MAKSURA FINAL FORMnJEEM WITH MEEM FINAL FORM",
      "u INITIAL FORMsALEF MAKSURA FINAL FORMnMEEM WITH YEH FINAL FORMsALEF MAKSURA FINAL FORM",
      "iYEH WITH MEEM WITH MEEM FINAL FORMuINITIAL FORMiBEH WITH KHAH WITH YEH FINAL FORM",
      "iTEH WITH JEEM WITH YEH FINAL FORMr ALEF MAKSURA FINAL FORMm KHAH WITH YEH FINAL FORM",
      "r ALEF MAKSURA FINAL FORMm MEEM WITH YEH FINAL FORMr ALEF MAKSURA FINAL FORM",
      "iJEEM WITH MEEM WITH YEH FINAL FORMnHAH WITH ALEF MAKSURA FINAL FORM",
      "nMEEM WITH ALEF MAKSURA FINAL FORMiSEEN WITH KHAH WITH ALEF MAKSURA FINAL FORM",
      "iSAD WITH HAH WITH YEH FINAL FORMiSHEEN WITH HAH WITH YEH FINAL FORM",
      "iDAD WITH HAH WITH YEH FINAL FORMiLAM WITH JEEM WITH YEH FINAL FORM",
      "m MEEM WITH YEH FINAL FORMiYEH WITH HAH WITH YEH FINAL FORMm JEEM WITH YEH FINAL FORM",
      "m MEEM WITH YEH FINAL FORMiMEEM WITH MEEM WITH YEH FINAL FORM",
      "iQAF WITH MEEM WITH YEH FINAL FORMiNOON WITH HAH WITH YEH FINAL FORM",
      "iQAF WITH MEEM WITH HAH INITIAL FORMiLAM WITH HAH WITH MEEM INITIAL FORM",
      "iAIN WITH MEEM WITH YEH FINAL FORMiKAF WITH MEEM WITH YEH FINAL FORM",
      "iNOON WITH JEEM WITH HAH INITIAL FORMiMEEM WITH KHAH WITH YEH FINAL FORM",
      "iLAM WITH JEEM WITH MEEM INITIAL FORMiKAF WITH MEEM WITH MEEM FINAL FORM",
      "iLAM WITH JEEM WITH MEEM FINAL FORMiNOON WITH JEEM WITH HAH FINAL FORM",
      "iJEEM WITH HAH WITH YEH FINAL FORMiHAH WITH JEEM WITH YEH FINAL FORM",
      "iMEEM WITH JEEM WITH YEH FINAL FORMiFEH WITH MEEM WITH YEH FINAL FORM",
      "iBEH WITH HAH WITH YEH FINAL FORMiKAF WITH MEEM WITH MEEM INITIAL FORM",
      "iAIN WITH JEEM WITH MEEM INITIAL FORMiSAD WITH MEEM WITH MEEM INITIAL FORM",
      "iSEEN WITH KHAH WITH YEH FINAL FORMiNOON WITH JEEM WITH YEH FINAL FORM"]),
   (0xFDCF, ["aARABIC LIGATURE SALAAMUHU ALAYNAA"]),
   (0xFDF0,
     ["aARABIC LIGATURE SALLA USED AS KORANIC STOP SIGN ISOLATED FORM",
      "iQALA USED AS KORANIC STOP SIGN ISOLATED FORMiALLAH ISOLATED FORMiAKBAR ISOLATED FORM",
      "iMOHAMMAD ISOLATED FORMiSALAM ISOLATED FORMiRASOUL ISOLATED FORMiALAYHE ISOLATED FORM",
      "iWASALLAM ISOLATED FORMiSALLA ISOLATED FORMkALLAHOU ALAYHE WASALLAMiJALLAJALALOUHOU",
      "aRIAL SIGNaARABIC LIGATURE BISMILLAH AR-RAHMAN AR-RAHEEMiSUBHAANAHU WA TAAALAA",
      "iAZZA WA JALLaVARIATION SELECTOR-1j-2j-3j-4j-5j-6j-7j-8j-9j-10k1k2k3k4k5k6",
      "aPRESENTATION FORM FOR VERTICAL COMMAp IDEOGRAPHIC COMMAv FULL STOPp COLONp SEMICOLON",
      "p EXCLAMATION MARKp QUESTION MARKp LEFT WHITE LENTICULAR BRACKET",
      "p RIGHT WHITE LENTICULAR BRAKCETp HORIZONTAL ELLIPSIS"]),
   (0xFE20,
     ["aCOMBINING LIGATURE LEFT HALFj RIGHT HALFfDOUBLE TILDE LEFT HALFl RIGHT HALF",
      "fMACRON LEFT HALFi RIGHT HALFfCONJOINING MACRONfLIGATURE LEFT HALF BELOW",
      "j RIGHT HALF BELOWfTILDE LEFT HALF BELOWiRIGHT HALF BELOWfMACRON LEFT HALF BELOW",
      "i RIGHT HALF BELOWfCONJOINING MACRON BELOWfCYRILLIC TITLO LEFT HALFm RIGHT HALF",
      "aPRESENTATION FORM FOR VERTICAL TWO DOT LEADERp EM DASHqN DASHp LOW LINEp WAVY LOW LINE",
      "p LEFT PARENTHESISp RIGHT PARENTHESISp LEFT CURLY BRACKETp RIGHT CURLY BRACKET",
      "p LEFT TORTOISE SHELL BRACKETp RIGHT TORTOISE SHELL BRACKET",
      "p LEFT BLACK LENTICULAR BRACKETp RIGHT BLACK LENTICULAR BRACKET",
      "p LEFT DOUBLE ANGLE BRACKETp RIGHT DOUBLE ANGLE BRACKETp LEFT ANGLE BRACKET",
      "p RIGHT ANGLE BRACKETp LEFT CORNER BRACKETp RIGHT CORNER BRACKET",
      "p LEFT WHITE CORNER BRACKETp RIGHT WHITE CORNER BRACKETaSESAME DOTaWHITE SESAME DOT",
      "aPRESENTATION FORM FOR VERTICAL LEFT SQUARE BRACKETp RIGHT SQUARE BRACKET",
      "aDASHED OVERLINEaCENTRELINE OVERLINEaWAVY OVERLINEaDOUBLE WAVY OVERLINEaDASHED LOW LINE",
      "aCENTRELINE LOW LINEaWAVY LOW LINEaSMALL COMMAdIDEOGRAPHIC COMMAdFULL STOP"]),
   (0xFE54,
     ["aSMALL SEMICOLONdCOLONdQUESTION MARKdEXCLAMATION MARKdEM DASHdLEFT PARENTHESIS",
      "dRIGHT PARENTHESISdLEFT CURLY BRACKETdRIGHT CURLY BRACKETdLEFT TORTOISE SHELL BRACKET",
      "dRIGHT TORTOISE SHELL BRACKETdNUMBER SIGNdAMPERSANDdASTERISKdPLUS SIGNdHYPHEN-MINUS",
      "dLESS-THAN SIGNdGREATER-THAN SIGNdEQUALS SIGN"]),
   (0xFE68, ["aSMALL REVERSE SOLIDUSdDOLLAR SIGNdPERCENT SIGNdCOMMERCIAL AT"]),
   (0xFE70,
     ["aARABIC FATHATAN ISOLATED FORMd TATWEEL WITH FATHATAN ABOVEd DAMMATAN ISOLATED FORM",
      "d TAIL FRAGMENTd KASRATAN ISOLATED FORM"]),
   (0xFE76,
     ["aARABIC FATHA ISOLATED FORMg MEDIAL FORMd DAMMA ISOLATED FORMg MEDIAL FORM",
      "d KASRA ISOLATED FORMg MEDIAL FORMd SHADDA ISOLATED FORMhMEDIAL FORMeUKUN ISOLATED FORM",
      "g MEDIAL FORMd LETTER HAMZA ISOLATED FORMhALEF WITH MADDA ABOVE ISOLATED FORMsFINAL FORM",
      "mHAMZA ABOVE ISOLATED FORMsFINAL FORMhWAW WITH HAMZA ABOVE ISOLATED FORMr FINAL FORM",
      "hALEF WITH HAMZA BELOW ISOLATED FORMsFINAL FORMhYEH WITH HAMZA ABOVE ISOLATED FORM",
      "r FINAL FORMr INITIAL FORMr MEDIAL FORMhALEF ISOLATED FORMj FINAL FORMhBEH ISOLATED FORM",
      "jFINAL FORMjINITIAL FORMjMEDIAL FORMhTEH MARBUTA ISOLATED FORMnFINAL FORMjISOLATED FORM",
      "jFINAL FORMjINITIAL FORMjMEDIAL FORMhTHEH ISOLATED FORMj FINAL FORMj INITIAL FORM",
      "j MEDIAL FORMhJEEM ISOLATED FORMj FINAL FORMj INITIAL FORMj MEDIAL FORM",
      "hHAH ISOLATED FORMjFINAL FORMjINITIAL FORMjMEDIAL FORMhKHAH ISOLATED FORMj FINAL FORM",
      "j INITIAL FORMj MEDIAL FORMhDAL ISOLATED FORMjFINAL FORMhTHAL ISOLATED FORMj FINAL FORM",
      "hREH ISOLATED FORMjFINAL FORMhZAIN ISOLATED FORMj FINAL FORMhSEEN ISOLATED FORM",
      "j FINAL FORMj INITIAL FORMj MEDIAL FORMhSHEEN ISOLATED FORMkFINAL FORMkINITIAL FORM",
      "kMEDIAL FORMhSAD ISOLATED FORMjFINAL FORMjINITIAL FORMjMEDIAL FORMhDAD ISOLATED FORM",
      "jFINAL FORMjINITIAL FORMjMEDIAL FORMhTAH ISOLATED FORMjFINAL FORMjINITIAL FORM",
      "jMEDIAL FORMhZAH ISOLATED FORMjFINAL FORMjINITIAL FORMjMEDIAL FORMhAIN ISOLATED FORM",
      "jFINAL FORMjINITIAL FORMjMEDIAL FORMhGHAIN ISOLATED FORMkFINAL FORMkINITIAL FORM",
      "kMEDIAL FORMhFEH ISOLATED FORMjFINAL FORMjINITIAL FORMjMEDIAL FORMhQAF ISOLATED FORM",
      "jFINAL FORMjINITIAL FORMjMEDIAL FORMhKAF ISOLATED FORMjFINAL FORMjINITIAL FORM",
      "jMEDIAL FORMhLAM ISOLATED FORMjFINAL FORMjINITIAL FORMjMEDIAL FORMhMEEM ISOLATED FORM",
      "j FINAL FORMj INITIAL FORMj MEDIAL FORMhNOON ISOLATED FORMj FINAL FORMj INITIAL FORM",
      "j MEDIAL FORMhHEH ISOLATED FORMjFINAL FORMjINITIAL FORMjMEDIAL FORMhWAW ISOLATED FORM",
      "jFINAL FORMhALEF MAKSURA ISOLATED FORMn FINAL FORMhYEH ISOLATED FORMjFINAL FORM",
      "jINITIAL FORMjMEDIAL FORMeIGATURE LAM WITH ALEF WITH MADDA ABOVE ISOLATED FORM",
      "x FINAL FORMr HAMZA ABOVE ISOLATED FORMx FINAL FORMu BELOW ISOLATED FORMx FINAL FORM",
      "pISOLATED FORMpFINAL FORM"]),
   (0xFEFF, ["aZERO WIDTH NO-BREAK SPACE"]),
   (0xFF01,
     ["aFULLWIDTH EXCLAMATION MARKfQUOTATION MARKfNUMBER SIGNfDOLLAR SIGNfPERCENT SIGN",
      "fAMPERSANDfAPOSTROPHEfLEFT PARENTHESISfRIGHT PARENTHESISfASTERISKfPLUS SIGNfCOMMA",
      "fHYPHEN-MINUSfFULL STOPfSOLIDUSfDIGIT ZEROiONEiTWOiTHREEiFOURiFIVEiSIXiSEVENiEIGHTiNINE",
      "fCOLONfSEMICOLONfLESS-THAN SIGNfEQUALS SIGNfGREATER-THAN SIGNfQUESTION MARK",
      "fCOMMERCIAL ATfLATIN CAPITAL LETTER Ap Bp Cp Dp Ep Fp Gp Hp Ip Jp Kp Lp Mp Np Op Pp Qp R",
      "p Sp Tp Up Vp Wp Xp Yp ZfLEFT SQUARE BRACKETfREVERSE SOLIDUSfRIGHT SQUARE BRACKET",
      "fCIRCUMFLEX ACCENTfLOW LINEfGRAVE ACCENTfLATIN SMALL LETTER Ao Bo Co Do Eo Fo Go Ho Io J",
      "o Ko Lo Mo No Oo Po Qo Ro So To Uo Vo Wo Xo Yo ZfLEFT CURLY BRACKETfVERTICAL LINE",
      "fRIGHT CURLY BRACKETfTILDEfLEFT WHITE PARENTHESISfRIGHT WHITE PARENTHESIS",
      "aHALFWIDTH IDEOGRAPHIC FULL STOPfLEFT CORNER BRACKETfRIGHT CORNER BRACKET",
      "fIDEOGRAPHIC COMMAfKATAKANA MIDDLE DOTj LETTER WOnSMALL AqIqUqEqOqYAqYUqYOqTU",
      "j-HIRAGANA PROLONGED SOUND MARKj LETTER AnInUnEnOnKAnKInKUnKEnKOnSAnSInSUnSEnSOnTAnTInTU",
      "nTEnTOnNAnNInNUnNEnNOnHAnHInHUnHEnHOnMAnMInMUnMEnMOnYAnYUnYOnRAnRInRUnREnROnWAnN",
      "j VOICED SOUND MARKj SEMI-VOICED SOUND MARKfHANGUL FILLERi LETTER KIYEOKmSSANGKIYEOK",
      "mKIYEOK-SIOSmNIEUNoN-CIEUCpHIEUHmTIKEUTmSSANGTIKEUTmRIEULoL-KIYEOKpMIEUMpPIEUPpSIOS",
      "pTHIEUTHpPHIEUPHpHIEUHmMIEUMmPIEUPmSSANGPIEUPmPIEUP-SIOSmSIOSmSSANGSIOSmIEUNGmCIEUC",
      "mSSANGCIEUCmCHIEUCHmKHIEUKHmTHIEUTHmPHIEUPHmHIEUH"]),
   (0xFFC2, ["aHALFWIDTH HANGUL LETTER AmAEmYAnEmEOmE"]),
   (0xFFCA, ["aHALFWIDTH HANGUL LETTER YEOnmOmWAnEmOE"]),
   (0xFFD2, ["aHALFWIDTH HANGUL LETTER YOmUmWEOnmWImYU"]),
   (0xFFDA, ["aHALFWIDTH HANGUL LETTER EUmYImI"]),
   (0xFFE0,
     ["aFULLWIDTH CENT SIGNfPOUND SIGNfNOT SIGNfMACRONfBROKEN BARfYEN SIGNfWON SIGN"]),
   (0xFFE8,
     ["aHALFWIDTH FORMS LIGHT VERTICALfLEFTWARDS ARROWfUPWARDS ARROWfRIGHTWARDS ARROW",
      "fDOWNWARDS ARROWfBLACK SQUAREfWHITE CIRCLE"]),
   (0xFFF9,
     ["aINTERLINEAR ANNOTATION ANCHORl SEPARATORl TERMINATORaOBJECT REPLACEMENT CHARACTER",
      "aREPLACEMENT CHARACTER"])]

end TreeQuote.CharacterName

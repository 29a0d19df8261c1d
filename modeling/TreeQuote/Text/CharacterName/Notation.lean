/-
TreeQuote/Text/CharacterName/Notation.lean

The names of music, mathematics and sign writing, in runs of code points with
names.  How a run is written is said where runs are read.
-/

namespace TreeQuote.CharacterName

/-- Runs of names of music, mathematics and sign writing. -/
def notationMarks : List (Nat × List String) :=
  [(0x1D000,
     ["aBYZANTINE MUSICAL SYMBOL PSILIm DASEIAm PERISPOMENIm OXEIA EKFONITIKONp DIPLI",
      "m VAREIA EKFONITIKONqDIPLIm KATHISTIm SYRMATIKIm PARAKLITIKIm YPOKRISISr DIPLIm KREMASTI",
      "m APESO EKFONITIKONm EXO EKFONITIKONm TELEIAm KENTIMATAm APOSTROFOSrS DIPLIm SYNEVMA",
      "m THITAm OLIGON ARCHAIONm GORGON ARCHAIONm PSILONm CHAMILONm VATHYm ISON ARCHAION",
      "m KENTIMA ARCHAIONqTA ARCHAIONm SAXIMATAm PARICHONm STAVROS APODEXIAm OXEIAI ARCHAION",
      "m VAREIAI ARCHAIONm APODERMA ARCHAIONoTHEMAm KLASMAm REVMAm PIASMA ARCHAIONm TINAGMA",
      "m ANATRICHISMAm SEISMAnYNAGMA ARCHAIONq META STAVROUm OYRANISMA ARCHAIONm THEMAm LEMOI",
      "m DYOm TRIAnESSERAm KRATIMATAm APESO EXO NEOm FTHORA ARCHAIONm IMIFTHORA",
      "m TROMIKON ARCHAIONm KATAVA TROMIKONm PELASTONnSIFISTONm KONTEVMAm CHOREVMA ARCHAION",
      "m RAPISMAm PARAKALESMA ARCHAIONpLITIKI ARCHAIONm ICHADINm NANAm PETASMAm KONTEVMA ALLO",
      "m TROMIKON ALLOm STRAGGISMATAm GRONTHISMATAm ISON NEOm OLIGON NEOnXEIA NEOm PETASTI",
      "m KOUFISMAm PETASTOKOUFISMAm KRATIMOKOUFISMAm PELASTON NEOm KENTIMATA NEO ANOq NEO ANO",
      "m YPSILIm APOSTROFOS NEOrI SYNDESMOS NEOm YPORROIm KRATIMOYPORROONm ELAFRONm CHAMILI",
      "m MIKRON ISONm VAREIA NEOm PIASMA NEOnSIFISTON NEOm OMALONm ANTIKENOMAm LYGISMA",
      "m PARAKLITIKI NEOpALESMA NEOm ETERON PARAKALESMAm KYLISMAm ANTIKENOKYLISMAm TROMIKON NEO",
      "m EKSTREPTONm SYNAGMA NEOnYRMAm CHOREVMA NEOm EPEGERMAm SEISMA NEOm XIRON KLASMA",
      "m TROMIKOPSIFISTONm PSIFISTOLYGISMAm TROMIKOLYGISMAqPARAKALESMAm PSIFISTOPARAKALESMA",
      "m TROMIKOSYNAGMAm PSIFISTOSYNAGMAm GORGOSYNTHETONm ARGOSYNTHETONm ETERON ARGOSYNTHETON",
      "m OYRANISMA NEOm THEMATISMOS ESOtXOp APLOUNoS KAI APOTHESm KATAVASMAm ENDOFONON",
      "m YFEN KATOpANOm STAVROSm KLASMA ANOm DIPLI ARCHAIONm KRATIMA ARCHAIONrLLOq NEO",
      "m APODERMA NEOnPLIm DIPLIm TRIPLInETRAPLIm KORONISm LEIMMA ENOS CHRONOUqDYO CHRONON",
      "qTRION CHRONONqTESSARON CHRONONqIMISEOS CHRONOUm GORGON NEO ANOqPARESTIGMENON ARISTERA",
      "xDEXIAm DIGORGONqN PARESTIGMENON ARISTERA KATOzISTERA ANOyDEXIAm TRIGORGONm ARGON",
      "m IMIDIARGONm DIARGONm AGOGI POLI ARGIp ARGOTERIrIp METRIAqESIp GORGIrGOTERIp POLI GORGI",
      "m MARTYRIA PROTOS ICHOSrALLI PROTOS ICHOSrDEYTEROS ICHOSrALLI DEYTEROS ICHOS",
      "rTRITOS ICHOSsIFONIASrTETARTOS ICHOSv LEGETOS ICHOSrLEGETOS ICHOSrPLAGIOS ICHOS",
      "m ISAKIA TELOUS ICHIMATOSm APOSTROFOI TELOUS ICHIMATOSm FANEROSIS TETRAFONIAS",
      "r MONOFONIASr DIFONIASm MARTYRIA VARYS ICHOSrPROTOVARYS ICHOSrPLAGIOS TETARTOS ICHOS",
      "m GORTHMIKON N APLOUNtDIPLOUNm ENARXIS KAI FTHORA VOUm IMIFONONoFTHORON",
      "m FTHORA ARCHAION DEYTEROU ICHOUqDIATONIKI PAvNANAqNAOS ICHOSqDIATONIKI DI",
      "qSKLIRON DIATONON DIqDIATONIKI KEvZOvNI KATOw ANOqMALAKON CHROMA DIFONIASx MONOFONIAS",
      "nHTORA SKLIRON CHROMA VASISnTHORA SKLIRON CHROMA SYNAFIqNENANOm CHROA ZYGOSp KLITON",
      "p SPATHIm FTHORA I YFESIS TETARTIMORIONqENARMONIOS ANTIFONIAm YFESIS TRITIMORION",
      "m DIESIS TRITIMORIONqTETARTIMORIONqAPLI DYO DODEKATAqMONOGRAMMOS TESSERA DODEKATA",
      "qDIGRAMMOS EX DODEKATAqTRIGRAMMOS OKTO DODEKATAm YFESIS APLI DYO DODEKATA",
      "qMONOGRAMMOS TESSERA DODEKATAqDIGRAMMOS EX DODEKATAqTRIGRAMMOS OKTO DODEKATA",
      "m GENIKI DIESISqYFESISm DIASTOLI APLI MIKRIuEGALIrDIPLIrTHESEOSm SIMANSIS THESEOS",
      "uS DISIMOUvTRISIMOUvTETRASIMOUrARSEOSu DISIMOUu TRISIMOUvETRASIMOUm DIGRAMMA GG",
      "nIFTOGGOS OUm STIGMAm ARKTIKO PAq VOUq GAq DIq KEq ZOq NIm KENTIMATA NEO MESOq NEO MESO",
      "qTA NEO KATOq NEO KATOnLASMA KATOm GORGON NEO KATO"]),
   (0x1D100,
     ["aMUSICAL SYMBOL SINGLE BARLINEh DOUBLE BARLINEh FINAL BARLINEh REVERSE FINAL BARLINE",
      "h DASHED BARLINEh SHORT BARLINEh LEFT REPEAT SIGNh RIGHT REPEAT SIGNiEPEAT DOTS",
      "h DAL SEGNOiA CAPOh SEGNOh CODAh REPEATED FIGURE-1p-2p-3h FERMATAl BELOWh BREATH MARK",
      "h CAESURAh BRACEjCKETh ONE-LINE STAFFh TWO-LINE STAFFiHREE-LINE STAFFh FOUR-LINE STAFF",
      "iIVE-LINE STAFFh SIX-LINE STAFFj-STRING FRETBOARDh FOUR-STRING FRETBOARDh G CLEF",
      "kF OTTAVA ALTAo BASSAh C CLEFh F CLEFkF OTTAVA ALTAo BASSAh DRUM CLEF-1m-2"]),
   (0x1D129,
     ["aMUSICAL SYMBOL MULTIPLE MEASURE RESTh DOUBLE SHARPlFLATh FLAT UPkDOWNh NATURAL UPl DOWN",
      "h SHARP UPk DOWNh QUARTER TONE SHARPoFLATh COMMON TIMEiUT TIMEh OTTAVA ALTAlBASSA",
      "h QUINDICESIMA ALTAoBASSAh MULTI RESTh WHOLE RESTh HALF RESTh QUARTER RESTh EIGHTH REST",
      "h SIXTEENTH RESTh THIRTY-SECOND RESTh SIXTY-FOURTH RESTh ONE HUNDRED TWENTY-EIGHTH REST",
      "h X NOTEHEADh PLUS NOTEHEADh CIRCLE X NOTEHEADh SQUARE NOTEHEAD WHITEp BLACK",
      "h TRIANGLE NOTEHEAD UP WHITEsBLACKq LEFT WHITEtBLACKq RIGHT WHITEt BLACKq DOWN WHITE",
      "tBLACKq UP RIGHT WHITEvBLACKh MOON NOTEHEAD WHITEo BLACK",
      "h TRIANGLE-ROUND NOTEHEAD DOWN WHITEwBLACKh PARENTHESIS NOTEHEADh VOID NOTEHEAD",
      "h NOTEHEAD BLACKiULL NOTEHEADh CLUSTER NOTEHEAD WHITEqBLACKh BREVEh WHOLE NOTE",
      "h HALF NOTEh QUARTER NOTEh EIGHTH NOTEh SIXTEENTH NOTEh THIRTY-SECOND NOTE",
      "h SIXTY-FOURTH NOTEh ONE HUNDRED TWENTY-EIGHTH NOTEh COMBINING STEMnPRECHGESANG STEM",
      "m TREMOLO-1q-2q-3h FINGERED TREMOLO-1q2q3h COMBINING AUGMENTATION DOTm FLAG-1p2p3p4p5",
      "h BEGIN BEAMh END BEAMh BEGIN TIEh END TIEh BEGIN SLURh END SLURh BEGIN PHRASE",
      "h END PHRASEh COMBINING ACCENTm STACCATOm TENUTOm STACCATISSIMOm MARCATOq-STACCATO",
      "m ACCENT-STACCATOm LOUREh ARPEGGIATO UPnDOWNh COMBINING DOITm RIPm FLIPm SMEARm BEND",
      "m DOUBLE TONGUEm TRIPLE TONGUEh RINFORZANDOh SUBITOh Zh PIANOh MEZZOh FORTEh CRESCENDO",
      "h DECRESCENDOh GRACE NOTE SLASHnNO SLASHh TRiURNh INVERTED TURNh TURN SLASHkUP",
      "h ORNAMENT STROKE-1p-2p-3p-4p-5p-6p-7p-8p-9p-10q1h HAUPTSTIMMEh NEBENSTIMME",
      "h END OF STIMMEh DEGREE SLASHh COMBINING DOWN BOWm UP BOWm HARMONICm SNAP PIZZICATO",
      "h PEDAL MARKk UP MARKh HALF PEDAL MARKh GLISSANDO UPm DOWNh WITH FINGERNAILSh DAMPjP ALL",
      "h MAXIMAh LONGAh BREVISh SEMIBREVIS WHITEnBLACKh MINIMAkA BLACKh SEMIMINIMA WHITEnBLACK",
      "h FUSA WHITEkBLACKh LONGA PERFECTA RESTk IMPERFECTA RESTh BREVIS RESTh SEMIBREVIS REST",
      "h MINIMA RESTh SEMIMINIMA RESTh TEMPUS PERFECTUM CUM PROLATIONE PERFECTAx IMPERFECTA",
      "x PERFECTA DIMINUTION-1lIMPERFECTUM CUM PROLATIONE PERFECTAy IMPERFECTA",
      "zMPERFECTA DIMINUTION-1zMPERFECTA DIMINUTION-2zMPERFECTA DIMINUTION-3h CROIX",
      "h GREGORIAN C CLEFm F CLEFh SQUARE Bh VIRGAh PODATUSh CLIVISh SCANDICUSh CLIMACUS",
      "h TORCULUSh PORRECTUSm FLEXUSh SCANDICUS FLEXUSh TORCULUS RESUPINUSh PES SUBPUNCTIS",
      "h KIEVAN C CLEFlEND OF PIECElFINAL NOTElRECITATIVE MARKlWHOLE NOTElHALF NOTE",
      "lQUARTER NOTE STEM DOWNuUPlEIGHTH NOTE STEM DOWNt UPlFLAT SIGNh SORIh KORON"]),
   (0x1D200,
     ["aGREEK VOCAL NOTATION SYMBOL-1o2o3o4o5o6o7o8o9o10o11o12o13o14o15o16o17o18o19o20o21o22o23",
      "o24o50o51o52o53o54dINSTRUMENTAL NOTATION SYMBOL-1r-2r-4r-5r-7r-8r-11s2s3s4s7s8s9r-23s4s5",
      "s6s7s9r-30s2s6s7s8s9r-40s2s3s5s7s8s9r-50s1s2s3s4aCOMBINING GREEK MUSICAL TRISEME",
      "mTETRASEMEmPENTASEMEaGREEK MUSICAL LEIMMA"]),
   (0x1D2E0,
     ["aMAYAN NUMERAL ZEROhONEhTWOhTHREEhFOURhFIVEhSIXhSEVENhEIGHThNINEhTENhELEVENhTWELVE",
      "hTHIRTEENhFOURTEENhFIFTEENhSIXTEENhSEVENTEENhEIGHTEENhNINETEEN"]),
   (0x1D300,
     ["aMONOGRAM FOR EARTHaDIGRAM FOR HEAVENLY EARTHgUMAN EARTHf EARTHLY HEAVENkUMANi",
      "aTETRAGRAM FOR CENTREhFULL CIRCLEhMIREDhBARRIERhKEEPING SMALLhCONTRARIETYhASCENT",
      "hOPPOSITIONhBRANCHING OUThDEFECTIVENESS OR DISTORTIONhDIVERGENCEhYOUTHFULNESShINCREASE",
      "hPENETRATIONhREACHhCONTACThHOLDING BACKhWAITINGhFOLLOWINGhADVANCEhRELEASEiSISTANCEhEASE",
      "hJOYhCONTENTIONhENDEAVOURhDUTIEShCHANGEhDECISIVENESShBOLD RESOLUTIONhPACKINGhLEGION",
      "hCLOSENESShKINSHIPhGATHERINGhSTRENGTHhPURITYhFULLNESShRESIDENCEhLAW OR MODELhRESPONSE",
      "hGOING TO MEEThENCOUNTERShSTOVEhGREATNESShENLARGEMENThPATTERNhRITUALhFLIGHT",
      "hVASTNESS OR WASTINGhCONSTANCYhMEASUREhETERNITYhUNITYhDIMINISHMENThCLOSED MOUTH",
      "hGUARDEDNESShGATHERING INhMASSINGhACCUMULATIONhEMBELLISHMENThDOUBThWATCHhSINKINGhINNER",
      "hDEPARTUREhDARKENINGhDIMMINGhEXHAUSTIONhSEVERANCEhSTOPPAGEhHARDNESShCOMPLETIONhCLOSURE",
      "hFAILUREhAGGRAVATIONhCOMPLIANCEhON THE VERGEhDIFFICULTIEShLABOURINGhFOSTERING"]),
   (0x1D360,
     ["aCOUNTING ROD UNIT DIGIT ONEmTWOmTHREEmFOURmFIVEmSIXmSEVENmEIGHTmNINEg TENS DIGIT ONE",
      "mTWOmTHREEmFOURmFIVEmSIXmSEVENmEIGHTmNINEaIDEOGRAPHIC TALLY MARK ONEl TWOmHREEl FOURmIVE",
      "aTALLY MARK ONEf FIVE"]),
   (0x1D400,
     ["aMATHEMATICAL BOLD CAPITAL AnBnCnDnEnFnGnHnInJnKnLnMnNnOnPnQnRnSnTnUnVnWnXnYnZjSMALL AmB",
      "mCmDmEmFmGmHmImJmKmLmMmNmOmPmQmRmSmTmUmVmWmXmYmZg ITALIC CAPITAL AoBoCoDoEoFoGoHoIoJoKoL",
      "oMoNoOoPoQoRoSoToUoVoWoXoYoZkSMALL AnBnCnDnEnFnG"]),
   (0x1D456,
     ["aMATHEMATICAL ITALIC SMALL InJnKnLnMnNnOnPnQnRnSnTnUnVnWnXnYnZg BOLD ITALIC CAPITAL Aq B",
      "q Cq Dq Eq Fq Gq Hq Iq Jq Kq Lq Mq Nq Oq Pq Qq Rq Sq Tq Uq Vq Wq Xq Yq Zm SMALL Ap Bp C",
      "p Dp Ep Fp Gp Hp Ip Jp Kp Lp Mp Np Op Pp Qp Rp Sp Tp Up Vp Wp Xp Yp Zg SCRIPT CAPITAL A"]),
   (0x1D49E, ["aMATHEMATICAL SCRIPT CAPITAL CoD"]),
   (0x1D4A2, ["aMATHEMATICAL SCRIPT CAPITAL G"]),
   (0x1D4A5, ["aMATHEMATICAL SCRIPT CAPITAL JoK"]),
   (0x1D4A9, ["aMATHEMATICAL SCRIPT CAPITAL NoOoPoQ"]),
   (0x1D4AE, ["aMATHEMATICAL SCRIPT CAPITAL SoToUoVoWoXoYoZkSMALL AnBnCnD"]),
   (0x1D4BB, ["aMATHEMATICAL SCRIPT SMALL F"]),
   (0x1D4BD, ["aMATHEMATICAL SCRIPT SMALL HnInJnKnLnMnN"]),
   (0x1D4C5,
     ["aMATHEMATICAL SCRIPT SMALL PnQnRnSnTnUnVnWnXnYnZg BOLD SCRIPT CAPITAL Aq Bq Cq Dq Eq F",
      "q Gq Hq Iq Jq Kq Lq Mq Nq Oq Pq Qq Rq Sq Tq Uq Vq Wq Xq Yq Zm SMALL Ap Bp Cp Dp Ep Fp G",
      "p Hp Ip Jp Kp Lp Mp Np Op Pp Qp Rp Sp Tp Up Vp Wp Xp Yp Zg FRAKTUR CAPITAL Ao B"]),
   (0x1D507, ["aMATHEMATICAL FRAKTUR CAPITAL Do Eo Fo G"]),
   (0x1D50D, ["aMATHEMATICAL FRAKTUR CAPITAL Jo Ko Lo Mo No Oo Po Q"]),
   (0x1D516, ["aMATHEMATICAL FRAKTUR CAPITAL So To Uo Vo Wo Xo Y"]),
   (0x1D51E,
     ["aMATHEMATICAL FRAKTUR SMALL An Bn Cn Dn En Fn Gn Hn In Jn Kn Ln Mn Nn On Pn Qn Rn Sn T",
      "n Un Vn Wn Xn Yn Zg DOUBLE-STRUCK CAPITAL Ar B"]),
   (0x1D53B, ["aMATHEMATICAL DOUBLE-STRUCK CAPITAL Dr Er Fr G"]),
   (0x1D540, ["aMATHEMATICAL DOUBLE-STRUCK CAPITAL Ir Jr Kr Lr M"]),
   (0x1D546, ["aMATHEMATICAL DOUBLE-STRUCK CAPITAL O"]),
   (0x1D54A, ["aMATHEMATICAL DOUBLE-STRUCK CAPITAL Sr Tr Ur Vr Wr Xr Y"]),
   (0x1D552,
     ["aMATHEMATICAL DOUBLE-STRUCK SMALL Aq Bq Cq Dq Eq Fq Gq Hq Iq Jq Kq Lq Mq Nq Oq Pq Qq R",
      "q Sq Tq Uq Vq Wq Xq Yq Zg BOLD FRAKTUR CAPITAL ArBrCrDrErFrGrHrIrJrKrLrMrNrOrPrQrRrSrTrU",
      "rVrWrXrYrZnSMALL AqBqCqDqEqFqGqHqIqJqKqLqMqNqOqPqQqRqSqTqUqVqWqXqYqZ",
      "g SANS-SERIF CAPITAL AqBqCqDqEqFqGqHqIqJqKqLqMqNqOqPqQqRqSqTqUqVqWqXqYqZmSMALL ApBpCpDpE",
      "pFpGpHpIpJpKpLpMpNpOpPpQpRpSpTpUpVpWpXpYpZmBOLD CAPITAL As Bs Cs Ds Es Fs Gs Hs Is Js K",
      "s Ls Ms Ns Os Ps Qs Rs Ss Ts Us Vs Ws Xs Ys Zo SMALL Ar Br Cr Dr Er Fr Gr Hr Ir Jr Kr L",
      "r Mr Nr Or Pr Qr Rr Sr Tr Ur Vr Wr Xr Yr ZmITALIC CAPITAL At Bt Ct Dt Et Ft Gt Ht It J",
      "t Kt Lt Mt Nt Ot Pt Qt Rt St Tt Ut Vt Wt Xt Yt Zp SMALL As Bs Cs Ds Es Fs Gs Hs Is Js K",
      "s Ls Ms Ns Os Ps Qs Rs Ss Ts Us Vs Ws Xs Ys ZmBOLD ITALIC CAPITAL AwBwCwDwEwFwGwHwIwJwK",
      "wLwMwNwOwPwQwRwSwTwUwVwWwXwYwZsSMALL AvBvCvDvEvFvGvHvIvJvKvLvMvNvOvPvQvRvSvTvUvVvWvXvYvZ",
      "g MONOSPACE CAPITAL Ap Bp Cp Dp Ep Fp Gp Hp Ip Jp Kp Lp Mp Np Op Pp Qp Rp Sp Tp Up Vp W",
      "p Xp Yp Zl SMALL Ao Bo Co Do Eo Fo Go Ho Io Jo Ko Lo Mo No Oo Po Qo Ro So To Uo Vo Wo X",
      "o Yo Zg ITALIC SMALL DOTLESS IrJ"]),
   (0x1D6A8,
     ["aMATHEMATICAL BOLD CAPITAL ALPHAnBETAnGAMMAnDELTAnEPSILONnZETAnETAnTHETAnIOTAnKAPPA",
      "nLAMDAnMUnNUnXInOMICRONnPInRHOnTHETA SYMBOLnSIGMAnTAUnUPSILONnPHInCHInPSInOMEGAjNABLA",
      "jSMALL ALPHAmBETAmGAMMAmDELTAmEPSILONmZETAmETAmTHETAmIOTAmKAPPAmLAMDAmMUmNUmXImOMICRON",
      "mPImRHOmFINAL SIGMAmSIGMAmTAUmUPSILONmPHImCHImPSImOMEGAjPARTIAL DIFFERENTIAL",
      "jEPSILON SYMBOLjTHETA SYMBOLjKAPPA SYMBOLjPHI SYMBOLjRHO SYMBOLjPI SYMBOL",
      "g ITALIC CAPITAL ALPHAoBETAoGAMMAoDELTAoEPSILONoZETAoETAoTHETAoIOTAoKAPPAoLAMDAoMUoNUoXI",
      "oOMICRONoPIoRHOoTHETA SYMBOLoSIGMAoTAUoUPSILONoPHIoCHIoPSIoOMEGAkNABLAkSMALL ALPHAnBETA",
      "nGAMMAnDELTAnEPSILONnZETAnETAnTHETAnIOTAnKAPPAnLAMDAnMUnNUnXInOMICRONnPInRHOnFINAL SIGMA",
      "nSIGMAnTAUnUPSILONnPHInCHInPSInOMEGAkPARTIAL DIFFERENTIALkEPSILON SYMBOLkTHETA SYMBOL",
      "kKAPPA SYMBOLkPHI SYMBOLkRHO SYMBOLkPI SYMBOLg BOLD ITALIC CAPITAL ALPHAq BETAq GAMMA",
      "q DELTAq EPSILONq ZETAq ETAq THETAq IOTAq KAPPAq LAMDAq MUq NUq XIq OMICRONq PIq RHO",
      "q THETA SYMBOLq SIGMAq TAUq UPSILONq PHIq CHIq PSIq OMEGAm NABLAm SMALL ALPHAp BETA",
      "p GAMMAp DELTAp EPSILONp ZETAp ETAp THETAp IOTAp KAPPAp LAMDAp MUp NUp XIp OMICRONp PI",
      "p RHOp FINAL SIGMAp SIGMAp TAUp UPSILONp PHIp CHIp PSIp OMEGAm PARTIAL DIFFERENTIAL",
      "m EPSILON SYMBOLm THETA SYMBOLm KAPPA SYMBOLm PHI SYMBOLm RHO SYMBOLm PI SYMBOL",
      "g SANS-SERIF BOLD CAPITAL ALPHAs BETAs GAMMAs DELTAs EPSILONs ZETAs ETAs THETAs IOTA",
      "s KAPPAs LAMDAs MUs NUs XIs OMICRONs PIs RHOs THETA SYMBOLs SIGMAs TAUs UPSILONs PHI",
      "s CHIs PSIs OMEGAo NABLAo SMALL ALPHAr BETAr GAMMAr DELTAr EPSILONr ZETAr ETAr THETA",
      "r IOTAr KAPPAr LAMDAr MUr NUr XIr OMICRONr PIr RHOr FINAL SIGMAr SIGMAr TAUr UPSILON",
      "r PHIr CHIr PSIr OMEGAo PARTIAL DIFFERENTIALo EPSILON SYMBOLo THETA SYMBOLo KAPPA SYMBOL",
      "o PHI SYMBOLo RHO SYMBOLo PI SYMBOLo ITALIC CAPITAL ALPHAwBETAwGAMMAwDELTAwEPSILONwZETA",
      "wETAwTHETAwIOTAwKAPPAwLAMDAwMUwNUwXIwOMICRONwPIwRHOwTHETA SYMBOLwSIGMAwTAUwUPSILONwPHI",
      "wCHIwPSIwOMEGAsNABLAsSMALL ALPHAvBETAvGAMMAvDELTAvEPSILONvZETAvETAvTHETAvIOTAvKAPPA",
      "vLAMDAvMUvNUvXIvOMICRONvPIvRHOvFINAL SIGMAvSIGMAvTAUvUPSILONvPHIvCHIvPSIvOMEGA",
      "sPARTIAL DIFFERENTIALsEPSILON SYMBOLsTHETA SYMBOLsKAPPA SYMBOLsPHI SYMBOLsRHO SYMBOL",
      "sPI SYMBOLg BOLD CAPITAL DIGAMMAjSMALL DIGAMMA"]),
   (0x1D7CE,
     ["aMATHEMATICAL BOLD DIGIT ZEROmONEmTWOmTHREEmFOURmFIVEmSIXmSEVENmEIGHTmNINE",
      "g DOUBLE-STRUCK DIGIT ZEROq ONEq TWOrHREEq FOURrIVEq SIXrEVENq EIGHTq NINE",
      "g SANS-SERIF DIGIT ZEROpONEpTWOpTHREEpFOURpFIVEpSIXpSEVENpEIGHTpNINEmBOLD DIGIT ZERO",
      "r ONEr TWOsHREEr FOURsIVEr SIXsEVENr EIGHTr NINEg MONOSPACE DIGIT ZEROo ONEo TWOpHREE",
      "o FOURpIVEo SIXpEVENo EIGHTo NINEaSIGNWRITING HAND-FIST INDEXi-CIRCLE INDEXjUP INDEX",
      "i-OVAL INDEXi-HINGE INDEXi-ANGLE INDEXi-FIST INDEX BENTi-CIRCLE INDEX BENT",
      "i-FIST THUMB UNDER INDEX BENTlINDEX RAISED KNUCKLEoCUPPEDoHINGEDr LOW",
      "i-CIRCLE INDEX HINGEi-FIST INDEX MIDDLEi-CIRCLE INDEX MIDDLEi-FIST INDEX MIDDLE BENT",
      "r RAISED KNUCKLESr HINGEDoUP MIDDLE HINGEDoHINGED MIDDLE UPoMIDDLE CONJOINEDw INDEX BENT",
      "w MIDDLE BENTw CUPPEDw HINGEDsROSSEDi-CIRCLE INDEX MIDDLE CROSSED",
      "i-FIST MIDDLE BENT OVER INDEXlINDEX BENT OVER MIDDLEoMIDDLE THUMB",
      "i-CIRCLE INDEX MIDDLE THUMBi-FIST INDEX MIDDLE STRAIGHT THUMB BENTr BENT THUMB STRAIGHT",
      "r THUMB BENTr HINGED SPREAD THUMB SIDEoUP MIDDLE HINGED THUMB SIDEz CONJOINED",
      "oHINGED MIDDLE UP THUMB SIDEoMIDDLE UP SPREAD THUMB FORWARDr THUMB CUPPEDvIRCLEDu HOOKED",
      "vINGEDlTHUMB BETWEEN INDEX MIDDLE STRAIGHTlINDEX MIDDLE CONJOINED THUMB SIDE",
      "z SIDE CONJOINEDz SIDE BENTlMIDDLE THUMB HOOKED INDEX UPlINDEX THUMB HOOKED MIDDLE UP",
      "oMIDDLE CONJOINED HINGED THUMB SIDEsROSSED THUMB SIDEsONJOINED THUMB FORWARD",
      "w CUPPED THUMB FORWARDlMIDDLE THUMB CUPPED INDEX UPlINDEX THUMB CUPPED MIDDLE UP",
      "lMIDDLE THUMB CIRCLED INDEX UPy HINGEDlINDEX THUMB ANGLED OUT MIDDLE UPu IN MIDDLE UP",
      "rCIRCLED MIDDLE UPoMIDDLE THUMB CONJOINED HINGEDu ANGLED OUTxD",
      "lMIDDLE THUMB ANGLED OUT INDEX UPzX CROSSEDvINDEX UPlINDEX THUMB HOOKED MIDDLE HINGED",
      "jLAT FOUR FINGERSr BENTr HINGEDr CONJOINEDw SPLITi-CLAW FOUR FINGERS CONJOINED",
      "i-FIST FOUR FINGERS CONJOINED BENTi-HINGE FOUR FINGERS CONJOINED",
      "i-FLAT FIVE FINGERS SPREADlHEEL FIVE FINGERS SPREADlFIVE FINGERS SPREAD FOUR BENT",
      "lHEEL FIVE FINGERS SPREAD FOUR BENTlFIVE FINGERS SPREAD BENT",
      "lHEEL FIVE FINGERS SPREAD BENTlFIVE FINGERS SPREAD THUMB FORWARD",
      "i-CUP FIVE FINGERS SPREADu OPENi-HINGE FIVE FINGERS SPREAD OPEN",
      "i-OVAL FIVE FINGERS SPREADi-FLAT FIVE FINGERS SPREAD HINGEDy THUMB SIDEy NO THUMBkT",
      "kT BETWEEN PALM FACINGSlHEELlTHUMB SIDElHEEL THUMB SIDElTHUMB BENToFORWARD",
      "lSPLIT INDEX THUMB SIDEoCENTREr THUMB SIDEwE BENToLITTLEi-CLAWkW THUMB SIDElNO THUMB",
      "lTHUMB FORWARDi-HOOK CURLICUEkKi-CUP OPENkk OPEN THUMB SIDEk THUMB SIDEk OPEN NO THUMB",
      "k NO THUMBk OPEN THUMB FORWARDk THUMB FORWARDjURLICUE OPENmEjIRCLEi-OVALkL THUMB SIDE",
      "lNO THUMBlTHUMB FORWARDi-HINGE OPENnN THUMB FORWARDll SMALLl OPEN THUMB SIDEl THUMB SIDE",
      "l OPEN NO THUMBl NO THUMBl THUMB SIDE TOUCHING INDEXo BETWEEN MIDDLE RINGi-ANGLE",
      "i-FIST INDEX MIDDLE RINGi-CIRCLE INDEX MIDDLE RINGi-HINGE INDEX MIDDLE RING",
      "i-ANGLE INDEX MIDDLE RINGi-HINGE LITTLEi-FIST INDEX MIDDLE RING BENTuCONJOINED",
      "i-HINGE INDEX MIDDLE RING CONJOINEDi-FIST LITTLE DOWNqN RIPPLE STRAIGHTu CURVED",
      "rOTHERS CIRCLEDo UPlTHUMB UNDER LITTLE UPi-CIRCLE LITTLE UPi-OVAL LITTLE UP",
      "i-ANGLE LITTLE UPi-FIST LITTLE RAISED KNUCKLEo BENTo TOUCHES THUMBpHUMB",
      "i-HINGE LITTLE THUMBi-FIST LITTLE INDEX THUMBi-HINGE LITTLE INDEX THUMB",
      "i-ANGLE LITTLE INDEX THUMB INDEX THUMB OUTzUMBi-FIST LITTLE INDEXi-CIRCLE LITTLE INDEX",
      "i-HINGE LITTLE INDEXi-ANGLE LITTLE INDEXi-FIST INDEX MIDDLE LITTLE",
      "i-CIRCLE INDEX MIDDLE LITTLEi-HINGE INDEX MIDDLE LITTLEl RINGi-ANGLE INDEX MIDDLE LITTLE",
      "i-FIST INDEX MIDDLE CROSS LITTLEi-CIRCLE INDEX MIDDLE CROSS LITTLEi-FIST RING DOWN",
      "i-HINGE RING DOWN INDEX THUMB HOOK MIDDLEi-ANGLE RING DOWN MIDDLE THUMB INDEX CROSS",
      "i-FIST RING UPn RAISED KNUCKLEn LITTLEi-CIRCLE RING LITTLEi-OVAL RING LITTLE",
      "i-ANGLE RING LITTLEi-FIST RING MIDDLEqE CONJOINEDrRAISED KNUCKLESn INDEXn THUMB",
      "i-HOOK RING THUMBi-FIST INDEX RING LITTLEi-CIRCLE INDEX RING LITTLE",
      "jURLICUE INDEX RING LITTLE ONi-HOOK INDEX RING LITTLE OUTuINuUNDER",
      "i-CUP INDEX RING LITTLEi-HINGE INDEX RING LITTLEi-ANGLE INDEX RING LITTLE OUTu",
      "i-FIST MIDDLE DOWNi-HINGE MIDDLEi-FIST MIDDLE UPi-CIRCLE MIDDLE UP",
      "i-FIST MIDDLE RAISED KNUCKLEo UP THUMB SIDEi-HOOK MIDDLE THUMBi-FIST MIDDLE THUMB LITTLE",
      "o LITTLEo RING LITTLEi-CIRCLE MIDDLE RING LITTLEjURLICUE MIDDLE RING LITTLE ON",
      "jUP MIDDLE RING LITTLEi-HINGE MIDDLE RING LITTLEi-ANGLE MIDDLE RING LITTLE OUTvINuE",
      "i-CIRCLE MIDDLE RING LITTLE BENTjLAW MIDDLE RING LITTLE CONJOINEDz SIDE",
      "i-HOOK MIDDLE RING LITTLE CONJOINED OUTz INzjINGE INDEX HINGEDi-FIST INDEX THUMB SIDE",
      "i-HINGE INDEX THUMB SIDEi-FIST INDEX THUMB SIDE THUMB DIAGONALw CONJOINEDw BENT",
      "t INDEX BENTt BOTH BENTt INDEX HINGErFORWARD INDEX STRAIGHTyBENTrHOOKrCURLICUE",
      "sRVE THUMB INSIDEi-CLAW INDEX THUMB CURVE THUMB INSIDE",
      "i-FIST INDEX THUMB CURVE THUMB UNDERrCIRCLEi-CUP INDEX THUMBq OPEN",
      "i-HINGE INDEX THUMB OPENr LARGErr SMALLi-ANGLE INDEX THUMB OUTr INri-FIST THUMBnB HEEL",
      "oSIDE DIAGONALq CONJOINEDq BENToFORWARDoBETWEEN INDEX MIDDLEsMIDDLE RINGsRING LITTLE",
      "oUNDER TWO FINGERSoOVER TWO FINGERSoUNDER THREE FINGERSrFOUR FINGERS",
      "oOVER FOUR RAISED KNUCKLESkTkT HEELgTOUCH SINGLEjMULTIPLEjBETWEENgGRASP SINGLEjMULTIPLE",
      "jBETWEENgSTRIKE SINGLEj MULTIPLEj BETWEENgBRUSH SINGLEjMULTIPLEjBETWEENgRUB SINGLE",
      "iMULTIPLEiBETWEENgSURFACE SYMBOLSkBETWEENgSQUEEZE LARGE SINGLEkSMALL SINGLE",
      "kLARGE MULTIPLEkSMALL MULTIPLEkSEQUENTIALgFLICK LARGE SINGLEjSMALL SINGLEjLARGE MULTIPLE",
      "jSMALL MULTIPLEjSEQUENTIALgSQUEEZE FLICK ALTERNATINGgMOVEMENT-HINGE UP DOWN LARGEr SMALL",
      "pSEQUENTIALn DOWN SEQUENTIALn UP DOWN ALTERNATING LARGEx SMALLn SIDE TO SIDE SCISSORS",
      "k-WALLPLANE FINGER CONTACTk-FLOORPLANE FINGER CONTACTk-WALLPLANE SINGLE STRAIGHT SMALL",
      "x MEDIUMx LARGEzGESTtWRIST FLEXp DOUBLE STRAIGHTtWRIST FLEXtALTERNATINGyG WRIST FLEX",
      "p CROSSp TRIPLE STRAIGHT MOVEMENTtWRIST FLEXtALTERNATINGyG WRIST FLEXp BEND SMALLsMEDIUM",
      "sLARGEp CORNER SMALLtMEDIUMtLARGEtROTATIONqHECK SMALLs MEDIUMs LARGEp BOX SMALLr MEDIUM",
      "r LARGEp ZIGZAG SMALLtMEDIUMtLARGEp PEAKS SMALLs MEDIUMs LARGE",
      "gTRAVEL-WALLPLANE ROTATION-WALLPLANE SINGLEyDOUBLEyALTERNATINGtFLOORPLANE SINGLEy DOUBLE",
      "y ALTERNATINGo SHAKINGo ARM SPIRAL SINGLEuDOUBLEuTRIPLEgMOVEMENT-DIAGONAL AWAY SMALL",
      "r MEDIUMr LARGEuSTpTOWARDS SMALLtMEDIUMtLARGEvESTpBETWEEN AWAY SMALLv MEDIUMv LARGEyST",
      "tTOWARDS SMALLxMEDIUMxLARGEzESTk-FLOORPLANE SINGLE STRAIGHT SMALLyMEDIUMyLARGEzRGEST",
      "t WRIST FLEXqDOUBLE STRAIGHTt WRIST FLEXt ALTERNATINGz WRIST FLEXqCROSS",
      "qTRIPLE STRAIGHT MOVEMENTt WRIST FLEXt ALTERNATING MOVEMENTz WRIST FLEXqBEND",
      "qCORNER SMALLt MEDIUMt LARGEqCHECKqBOX SMALLsMEDIUMsLARGEqZIGZAG SMALLt MEDIUMt LARGE",
      "qPEAKS SMALLtMEDIUMtLARGEgTRAVEL-FLOORPLANE ROTATION-FLOORPLANE SINGLEzDOUBLE",
      "zALTERNATINGt-WALLPLANE SINGLEy DOUBLEy ALTERNATINGpSHAKING",
      "gMOVEMENT-WALLPLANE CURVE QUARTER SMALLw MEDIUMw LARGEzSTs HALF-CIRCLE SMALLy MEDIUM",
      "y LARGEzARGESTs THREE-QUARTER CIRCLE SMALLz CIRCLE MEDIUMp HUMP SMALLsMEDIUMsLARGE",
      "p LOOP SMALLsMEDIUMsLARGEsSMALL DOUBLEp WAVE CURVE DOUBLE SMALLy MEDIUMy LARGE",
      "vTRIPLE SMALLy MEDIUMy LARGEp CURVE THEN STRAIGHTsD CROSS SMALLwMEDIUM",
      "gROTATION-WALLPLANE SINGLEp DOUBLEp ALTERNATEgMOVEMENT-WALLPLANE SHAKING",
      "p CURVE HITTING FRONT WALLp HUMP HITTING FRONT WALLp LOOP HITTING FRONT WALL",
      "p WAVE HITTING FRONT WALLgROTATION-WALLPLANE SINGLE HITTING FRONT WALL",
      "p DOUBLE HITTING FRONT WALLp ALTERNATING HITTING FRONT WALL",
      "gMOVEMENT-WALLPLANE CURVE HITTING CHESTp HUMP HITTING CHESTp LOOP HITTING CHEST",
      "p WAVE HITTING CHESTgROTATION-WALLPLANE SINGLE HITTING CHESTp DOUBLE HITTING CHEST",
      "p ALTERNATING HITTING CHESTgMOVEMENT-WALLPLANE WAVE DIAGONAL PATH SMALLzMEDIUMzLARGE",
      "k-FLOORPLANE CURVE HITTING CEILING SMALLzING LARGEqHUMP HITTING CEILING SMALL DOUBLE",
      "zNG LARGE DOUBLEzNG SMALL TRIPLEzNG LARGE TRIPLEqLOOP HITTING CEILING SMALL SINGLE",
      "zNG LARGE SINGLEzNG SMALL DOUBLEzNG LARGE DOUBLEqWAVE HITTING CEILING SMALLzNG LARGE",
      "gROTATION-FLOORPLANE SINGLE HITTING CEILINGqDOUBLE HITTING CEILING",
      "qALTERNATING HITTING CEILINGgMOVEMENT-FLOORPLANE CURVE HITTING FLOOR SMALLzR LARGE",
      "qHUMP HITTING FLOOR SMALL DOUBLEz LARGE DOUBLEz TRIPLE SMALL TRIPLEz TRIPLE LARGE TRIPLE",
      "qLOOP HITTING FLOOR SMALL SINGLEz LARGE SINGLEz SMALL DOUBLEz LARGE DOUBLE",
      "qWAVE HITTING FLOOR SMALLz LARGEgROTATION-FLOORPLANE SINGLE HITTING FLOOR",
      "qDOUBLE HITTING FLOORqALTERNATING HITTING FLOORgMOVEMENT-FLOORPLANE CURVE SMALLtMEDIUM",
      "tLARGEvESTtCOMBINEDqHUMP SMALLqLOOP SMALLqWAVE SNAKEtMALLs LARGE",
      "gROTATION-FLOORPLANE SINGLEqDOUBLEqALTERNATINGgMOVEMENT-FLOORPLANE SHAKING PARALLEL",
      "k-WALLPLANE ARM CIRCLE SMALL SINGLEvMEDIUM SINGLEvSMALL DOUBLEvMEDIUM DOUBLE",
      "k-FLOORPLANE ARM CIRCLE HITTING WALL SMALL SINGLEz WALL MEDIUM SINGLEz WALL LARGE SINGLE",
      "z WALL SMALL DOUBLEz WALL MEDIUM DOUBLEz WALL LARGE DOUBLE",
      "k-WALLPLANE WRIST CIRCLE FRONT SINGLEzDOUBLE",
      "k-FLOORPLANE WRIST CIRCLE HITTING WALL SINGLEzNG WALL DOUBLE",
      "k-WALLPLANE FINGER CIRCLES SINGLExDOUBLEk-FLOORPLANE FINGER CIRCLES HITTING WALL SINGLE",
      "zTING WALL DOUBLEgDYNAMIC ARROWHEAD SMALLpLARGEkFASTkSLOWkTENSEkRELAXEDkSIMULTANEOUS",
      "q ALTERNATINGkEVERY OTHER TIMEkGRADUALgHEADi RIMi MOVEMENT-WALLPLANE STRAIGHTsTILT",
      "nFLOORPLANE STRAIGHTnWALLPLANE CURVEnFLOORPLANE CURVEmT CIRCLE",
      "gFACE DIRECTION POSITION NOSE FORWARD TILTINGu UP OR DOWNzN TILTINGgEYEBROWS STRAIGHT UP",
      "pNEUTRALpDOWNgDREAMY EYEBROWS NEUTRAL DOWNoDOWN NEUTRALoUP NEUTRALoNEUTRAL UP",
      "gFOREHEAD NEUTRALk CONTACTk WRINKLEDgEYES OPENi SQUEEZEDi CLOSEDhE BLINK SINGLElMULTIPLE",
      "hES HALF OPENi WIDE OPENi HALF CLOSEDi WIDENING MOVEMENThE WINKhELASHES UPlDOWN",
      "lFLUTTERINGhEGAZE-WALLPLANE STRAIGHTt DOUBLEt ALTERNATINGkFLOORPLANE STRAIGHTtT DOUBLE",
      "uALTERNATINGkWALLPLANE CURVEDkFLOORPLANE CURVEDkWALLPLANE CIRCLINGgCHEEKS PUFFED",
      "j NEUTRALj SUCKEDgTENSE CHEEKS HIGHm MIDDLEm LOWgEARSgNOSE NEUTRALi CONTACTi WRINKLES",
      "jIGGLESgAIR BLOWING OUTiSUCKING INiBLOW SMALL ROTATIONSiSUCK SMALL ROTATIONS",
      "gBREATH INHALEj EXHALEgMOUTH CLOSED NEUTRALm FORWARDm CONTACTjSMILElE WRINKLEDmOPEN",
      "jFROWNlN WRINKLEDmOPENjOPEN CIRCLEl FORWARDl WRINKLEDl OVALnL WRINKLEDoYAWNl RECTANGLE",
      "q WRINKLEDq YAWNjKISSl FORWARDl WRINKLEDjTENSElE FORWARDmSUCKEDgLIPS PRESSED TOGETHER",
      "hP LOWER OVER UPPERiUPPER OVER LOWERgMOUTH CORNERSjWRINKLES SINGLEn DOUBLE",
      "gTONGUE STICKING OUT FARj LICKING LIPSj TIP BETWEEN LIPSl TOUCHING INSIDE MOUTH",
      "j INSIDE MOUTH RELAXEDj MOVES AGAINST CHEEKj CENTRE STICKING OUTnINSIDE MOUTHgTEETH",
      "iH MOVEMENTjON TONGUEnE MOVEMENTk LIPSmS MOVEMENTjBITE LIPSgMOVEMENT-WALLPLANE JAW",
      "k-FLOORPLANE JAWgNECKgHAIRgEXCITEMENTgSHOULDER HIP SPINEm POSITIONS",
      "gWALLPLANE SHOULDER HIP MOVEgFLOORPLANE SHOULDER HIP MOVEgSHOULDER TILTING FROM WAIST",
      "gTORSO-WALLPLANE STRAIGHT STRETCHoCURVED BENDjFLOORPLANE TWISTING",
      "gUPPER BODY TILTING FROM HIP JOINTSgLIMB COMBINATIONi LENGTH-1m2m3m4m5m6m7gFINGER",
      "gLOCATION-WALLPLANE SPACEk-FLOORPLANE SPACEk HEIGHTk WIDTHk DEPTHk HEAD NECKk TORSO",
      "k LIMBS DIGITSgCOMMAgFULL STOPgSEMICOLONgCOLONgPARENTHESIS"]),
   (0x1DA9B, ["aSIGNWRITING FILL MODIFIER-2n3n4n5n6"]),
   (0x1DAA1, ["aSIGNWRITING ROTATION MODIFIER-2p3p4p5p6p7p8p9p10p11p12p13p14p15p16"]),
   (0x1DF00,
     ["aLATIN SMALL LETTER FENG DIGRAPH WITH TRILLj REVERSED SCRIPT G",
      "dLETTER SMALL CAPITAL TURNED GdSMALL LETTER REVERSED KdLETTER SMALL CAPITAL L WITH BELT",
      "dSMALL LETTER LEZH WITH RETROFLEX HOOKj TURNED Y WITH BELTj REVERSED ENG",
      "j TURNED R WITH LONG LEG AND RETROFLEX HOOKk WITH HOOK AND RETROFLEX HOOK",
      "dLETTER RETROFLEX CLICK WITH RETROFLEX HOOKdSMALL LETTER ESH WITH DOUBLE BARt AND CURL",
      "j TURNED T WITH CURLdLETTER INVERTED GLOTTAL STOP WITH CURLg STRETCHED C WITH CURL",
      "hMALL CAPITAL TURNED KdSMALL LETTER L WITH FISHHOOKj DEZH DIGRAPH WITH PALATAL HOOK",
      "j L WITH BELT AND PALATAL HOOKj ENG WITH PALATAL HOOKj TURNED R WITH PALATAL HOOK",
      "j R WITH FISHHOOK AND PALATAL HOOKj TESH DIGRAPH WITH PALATAL HOOK",
      "j EZH WITH PALATAL HOOKj DEZH DIGRAPH WITH RETROFLEX HOOK",
      "j I WITH STROKE AND RETROFLEX HOOKj O WITH RETROFLEX HOOK",
      "j TESH DIGRAPH WITH RETROFLEX HOOKj C WITH RETROFLEX HOOKj S WITH CURL"]),
   (0x1E000,
     ["aCOMBINING GLAGOLITIC LETTER AZUoBUKYoVEDEoGLAGOLIoDOBROoYESTUoZHIVETE"]),
   (0x1E008,
     ["aCOMBINING GLAGOLITIC LETTER ZEMLJAoIZHEoINITIAL IZHEoIoDJERVIoKAKOoLJUDIJEoMYSLITE",
      "oNASHIoONUoPOKOJIoRITSIoSLOVOoTVRIDOoUKUoFRITUoHERU"]),
   (0x1E01B, ["aCOMBINING GLAGOLITIC LETTER SHTAoTSIoCHRIVIoSHAoYERUpRIoYATI"]),
   (0x1E023, ["aCOMBINING GLAGOLITIC LETTER YUoSMALL YUS"]),
   (0x1E026,
     ["aCOMBINING GLAGOLITIC LETTER YOoIOTATED SMALL YUSoBIG YUSoIOTATED BIG YUSoFITA"]),
   (0x1E100,
     ["aNYIAKENG PUACHUE HMONG LETTER MApTSApNTApTApHApNApXApNKApCApLApSApZApNCApNTSApKApDApNYA",
      "pNRApVApNTXApTXApFApRApQApYApNQApPApXYApNPApDLApNPLApHAHpMLApPLApGApRRApApAApIpUpOpOOpE",
      "pEEpW"]),
   (0x1E130,
     ["aNYIAKENG PUACHUE HMONG TONE-BoMoJoVoSoGoDl SIGN FOR PERSONqTHINGqLOCATIONqANIMAL",
      "qINVERTEBRATEoXW XWmYLLABLE LENGTHENER"]),
   (0x1E140,
     ["aNYIAKENG PUACHUE HMONG DIGIT ZEROo ONEo TWOpHREEo FOURpIVEo SIXpEVENo EIGHTo NINE"]),
   (0x1E14E, ["aNYIAKENG PUACHUE HMONG LOGOGRAM NYAJl CIRCLED CA"]),
   (0x1E290,
     ["aTOTO LETTER PAgBAgTAgDAgKAgGAgMAgNAgNGAgSAgCHAgYAgWAgJAgHAgRAgLAgIgBREATHY IgIU",
      "gBREATHY IUgUgEgBREATHY EgEOgBREATHY EOgOgAEgBREATHY AEgAc SIGN RISING TONE"]),
   (0x1E2C0,
     ["aWANCHO LETTER AAhAhBAhCAhDAhGAhYAhPHAhLAhNAhPAhTAhTHAhFAhSAhSHAhJAhZAhWAhVAhKAhOhAUhRA",
      "hMAhKHAhHAhEhIhNGAhUhLLHAhTSAhTRAhONGhAANGhANGhINGhONhENhAANhNYAhUENhYIHd TONE TUPhPNI",
      "gKOIhINId DIGIT ZEROg ONEg TWOhHREEg FOURhIVEg SIXhEVENg EIGHTg NINE"]),
   (0x1E2FF, ["aWANCHO NGUN SIGN"]),
   (0x1E7E0, ["aETHIOPIC SYLLABLE HHYAkYUkYIkYAAkYEElkYO"]),
   (0x1E7E8, ["aETHIOPIC SYLLABLE GURAGE HHWAjHHWIkWEEl"]),
   (0x1E7ED, ["aETHIOPIC SYLLABLE GURAGE MWInWEE"]),
   (0x1E7F0,
     ["aETHIOPIC SYLLABLE GURAGE QWInWEEom BWInWEEm KWInWEEom GWInWEEom FWInWEEm PWInWEE"]),
   (0x1E800,
     ["aMENDE KIKAKUI SYLLABLE M001 KIn2 KAn3 KUm065 KEEm095 KEm076 KOOm048 KOm179 KUAm004 WI",
      "n5 WAn6 WUm126 WEEm118 WEn4 WOOm045 WOm194 WUIm143 WEIm061 WVIm049 WVAm139 WVEm007 MIN",
      "n8 MANn9 MUNm059 MENm094 MONm154 MUANm189 MUENm010 BIn1 BAn2 BUm150 BEEm097 BEm103 BOO",
      "m138 BOm013 In4 An5 Um163 EEm100 Em165 OOm147 Om137 EIn1 INn5 INm195 ANm178 ENm019 SI",
      "m020 SAn1 SUm162 SEEm116 SEm136 SOOm079 SOm196 SIAm025 LIn6 LAn7 LUm084 LEEm073 LE",
      "m054 LOOm153 LOm110 LONG LEm016 DIn7 DAn8 DUm089 DEEm180 DOOn1 DOm022 TIn3 TAn4 TU",
      "m091 TEEm055 TEm104 TOOm069 TOm028 JIn9 JAm030 JUm157 JEEm113 JEm160 JOOm063 JO",
      "m175 LONG JOm031 YIn2 YAn3 YUm109 YEEm080 YEm141 YOOm121 YOm034 FIn5 FAn6 FUm078 FEE",
      "n5 FEm133 FOOm088 FOm197 FUAm101 FANm037 NINn8 NANn9 NUNm117 NENm169 NONm176 HIm041 HA",
      "m186 HUm040 HEEm096 HEm042 HOOm140 HOm083 HEEIm128 HOOUm053 HINm130 HANm087 HUNm052 HEN",
      "m193 HONm046 HUANm090 NGGIm043 NGGAm082 NGGUm115 NGGEEm146 NGGEm156 NGGOOm120 NGGO",
      "m159 NGGAAm127 NGGUAm086 LONG NGGEm106 LONG NGGOOm183 LONG NGGOm155 GIm111 GAm168 GU",
      "m190 GEEm166 GUEIn7 GUANm184 NGENm057 NGONm177 NGUANm068 PIm099 PAm050 PUm081 PEEm051 PE",
      "m102 POOm066 POm145 MBIm062 MBAm122 MBUm047 MBEEm188 MBEEm072 MBEm172 MBOOn4 MBO",
      "m187 MBUUm161 LONG MBEm105 LONG MBOOm142 LONG MBOm132 KPIm092 KPAm074 KPUm044 KPEE",
      "m108 KPEm112 KPOOm158 KPOm124 GBIm056 GBAm148 GBUm093 GBEEm107 GBEm071 GBOOn0 GBOm171 RA",
      "m123 NDIn9 NDAn5 NDUm191 NDEEm119 NDEm067 NDOOn4 NDOm152 NJAm192 NJUm149 NJEEm134 NJOO",
      "m182 VIn5 VAm151 VUm173 VEEm085 VEm144 VOOm077 VOm164 NYINm058 NYANm170 NYUNm098 NYEN",
      "m060 NYON"]),
   (0x1E8C7,
     ["aMENDE KIKAKUI DIGIT ONEkTWOkTHREEkFOURkFIVEkSIXkSEVENkEIGHTkNINEhCOMBINING NUMBER TEENS",
      "qENSp HUNDREDSp THOUSANDSqEN THOUSANDSp HUNDRED THOUSANDSp MILLIONS"]),
   (0x1E900,
     ["aADLAM CAPITAL LETTER ALIFk DAALIk LAAMk MIIMk BAk SINNYIIYHEk PEk BHEk RAk Ek FAk Ik O",
      "k DHAk YHEk WAWk NUNk KAFk YAk Uk JIIMk CHIk HAk QAAFk GAk NYAk TUk NHAk VAk KHAk GBE",
      "k ZALk KPOk SHAdSMALL LETTER ALIFj DAALIj LAAMj MIIMj BAj SINNYIIYHEj PEj BHEj RAj Ej FA",
      "j Ij Oj DHAj YHEj WAWj NUNj KAFj YAj Uj JIIMj CHIj HAj QAAFj GAj NYAj TUj NHAj VAj KHA",
      "j GBEj ZALj KPOj SHAdALIF LENGTHENERdVOWEL LENGTHENERdGEMINATION MARKdHAMZA",
      "dCONSONANT MODIFIERdGEMINATE CONSONANT MODIFIERdNUKTAdNASALIZATION MARK"]),
   (0x1E950, ["aADLAM DIGIT ZEROgONEgTWOgTHREEgFOURgFIVEgSIXgSEVENgEIGHTgNINE"]),
   (0x1E95E, ["aADLAM INITIAL EXCLAMATION MARKhQUESTION MARK"]),
   (0x1EC71,
     ["aINDIC SIYAQ NUMBER ONEj TWOkHREEj FOURkIVEj SIXkEVENj EIGHTj NINEj TENkWENTYkHIRTY",
      "j FORTYkIFTYj SIXTYkEVENTYj EIGHTYj NINETYj ONE HUNDREDj TWO HUNDREDkHREE HUNDRED",
      "j FOUR HUNDREDkIVE HUNDREDj SIX HUNDREDkEVEN HUNDREDj EIGHT HUNDREDj NINE HUNDRED",
      "j ONE THOUSANDj TWO THOUSANDkHREE THOUSANDj FOUR THOUSANDkIVE THOUSANDj SIX THOUSAND",
      "kEVEN THOUSANDj EIGHT THOUSANDj NINE THOUSANDj TEN THOUSANDkWENTY THOUSAND",
      "kHIRTY THOUSANDj FORTY THOUSANDkIFTY THOUSANDj SIXTY THOUSANDkEVENTY THOUSAND",
      "j EIGHTY THOUSANDj NINETY THOUSANDj LAKHlHANgLAKH MARKgNUMBER KARORmANj PREFIXED ONEoTWO",
      "oTHREEoFOURoFIVEoSIXoSEVENoEIGHToNINEgPLACEHOLDERgFRACTION ONE QUARTERm HALF",
      "k THREE QUARTERSgRUPEE MARKgNUMBER ALTERNATE ONEo TWOpEN THOUSANDgALTERNATE LAKH MARK"]),
   (0x1ED01,
     ["aOTTOMAN SIYAQ NUMBER ONEk TWOlHREEk FOURlIVEk SIXlEVENk EIGHTk NINEk TENlWENTYlHIRTY",
      "k FORTYlIFTYk SIXTYlEVENTYk EIGHTYk NINETYk ONE HUNDREDk TWO HUNDREDlHREE HUNDRED",
      "k FOUR HUNDREDlIVE HUNDREDk SIX HUNDREDlEVEN HUNDREDk EIGHT HUNDREDk NINE HUNDRED",
      "k ONE THOUSANDk TWO THOUSANDlHREE THOUSANDk FOUR THOUSANDlIVE THOUSANDk SIX THOUSAND",
      "lEVEN THOUSANDk EIGHT THOUSANDk NINE THOUSANDk TEN THOUSANDlWENTY THOUSAND",
      "lHIRTY THOUSANDk FORTY THOUSANDlIFTY THOUSANDk SIXTY THOUSANDlEVENTY THOUSAND",
      "k EIGHTY THOUSANDk NINETY THOUSANDhMARRATANhALTERNATE NUMBER TWOqHREEp FOURqIVEp SIX",
      "qEVENp EIGHTp NINEp TENp FOUR HUNDREDp SIX HUNDREDp TWO THOUSANDqEN THOUSAND",
      "hFRACTION ONE HALFn SIXTH"]),
   (0x1EE00, ["aARABIC MATHEMATICAL ALEFkBEHkJEEMkDAL"]),
   (0x1EE05,
     ["aARABIC MATHEMATICAL WAWkZAINkHAHkTAHkYEHkKAFkLAMkMEEMkNOONkSEENkAINkFEHkSADkQAFkREH",
      "kSHEENkTEHkTHEHkKHAHkTHALkDADkZAHkGHAINkDOTLESS BEHoNOONoFEHoQAF"]),
   (0x1EE21, ["aARABIC MATHEMATICAL INITIAL BEHoJEEM"]),
   (0x1EE24, ["aARABIC MATHEMATICAL INITIAL HEH"]),
   (0x1EE27, ["aARABIC MATHEMATICAL INITIAL HAH"]),
   (0x1EE29,
     ["aARABIC MATHEMATICAL INITIAL YEHoKAFoLAMoMEEMoNOONoSEENoAINoFEHoSADoQAF"]),
   (0x1EE34, ["aARABIC MATHEMATICAL INITIAL SHEENoTEHoTHEHoKHAH"]),
   (0x1EE39, ["aARABIC MATHEMATICAL INITIAL DAD"]),
   (0x1EE3B, ["aARABIC MATHEMATICAL INITIAL GHAIN"]),
   (0x1EE42, ["aARABIC MATHEMATICAL TAILED JEEM"]),
   (0x1EE47, ["aARABIC MATHEMATICAL TAILED HAH"]),
   (0x1EE49, ["aARABIC MATHEMATICAL TAILED YEH"]),
   (0x1EE4B, ["aARABIC MATHEMATICAL TAILED LAM"]),
   (0x1EE4D, ["aARABIC MATHEMATICAL TAILED NOONn SEENn AIN"]),
   (0x1EE51, ["aARABIC MATHEMATICAL TAILED SADn QAF"]),
   (0x1EE54, ["aARABIC MATHEMATICAL TAILED SHEEN"]),
   (0x1EE57, ["aARABIC MATHEMATICAL TAILED KHAH"]),
   (0x1EE59, ["aARABIC MATHEMATICAL TAILED DAD"]),
   (0x1EE5B, ["aARABIC MATHEMATICAL TAILED GHAIN"]),
   (0x1EE5D, ["aARABIC MATHEMATICAL TAILED DOTLESS NOON"]),
   (0x1EE5F, ["aARABIC MATHEMATICAL TAILED DOTLESS QAF"]),
   (0x1EE61, ["aARABIC MATHEMATICAL STRETCHED BEHpJEEM"]),
   (0x1EE64, ["aARABIC MATHEMATICAL STRETCHED HEH"]),
   (0x1EE67, ["aARABIC MATHEMATICAL STRETCHED HAHpTAHpYEHpKAF"]),
   (0x1EE6C, ["aARABIC MATHEMATICAL STRETCHED MEEMpNOONpSEENpAINpFEHpSADpQAF"]),
   (0x1EE74, ["aARABIC MATHEMATICAL STRETCHED SHEENpTEHpTHEHpKHAH"]),
   (0x1EE79, ["aARABIC MATHEMATICAL STRETCHED DADpZAHpGHAINpDOTLESS BEH"]),
   (0x1EE7E, ["aARABIC MATHEMATICAL STRETCHED DOTLESS FEH"]),
   (0x1EE80,
     ["aARABIC MATHEMATICAL LOOPED ALEFn BEHn JEEMn DALn HEHn WAWn ZAINn HAHn TAHn YEH"]),
   (0x1EE8B,
     ["aARABIC MATHEMATICAL LOOPED LAMn MEEMn NOONn SEENn AINn FEHn SADn QAFn REHn SHEENn TEH",
      "oHEHn KHAHn THALn DADn ZAHn GHAIN"]),
   (0x1EEA1, ["aARABIC MATHEMATICAL DOUBLE-STRUCK BEHrJEEMrDAL"]),
   (0x1EEA5, ["aARABIC MATHEMATICAL DOUBLE-STRUCK WAWrZAINrHAHrTAHrYEH"]),
   (0x1EEAB,
     ["aARABIC MATHEMATICAL DOUBLE-STRUCK LAMrMEEMrNOONrSEENrAINrFEHrSADrQAFrREHrSHEENrTEHrTHEH",
      "rKHAHrTHALrDADrZAHrGHAIN"]),
   (0x1EEF0,
     ["aARABIC MATHEMATICAL OPERATOR MEEM WITH HAH WITH TATWEELo HAH WITH DAL"])]

end TreeQuote.CharacterName

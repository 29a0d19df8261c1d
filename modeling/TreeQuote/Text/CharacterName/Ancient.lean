/-
TreeQuote/Text/CharacterName/Ancient.lean

The names of scripts that are out of use or rare, in runs of code points with
names.  How a run is written is said where runs are read.
-/

namespace TreeQuote.CharacterName

/-- Runs of names of scripts that are out of use or rare. -/
def ancient : List (Nat × List String) :=
  [(0x10000,
     ["aLINEAR B SYLLABLE B008 Ak38 Ek28 Ik61 Ok10 Uk01 DAk45 DEk07 DIk14 DOk51 DUk57 JAk46 JE"]),
   (0x1000D,
     ["aLINEAR B SYLLABLE B036 JOk65 JUk77 KAk44 KEk67 KIk70 KOk81 KUk80 MAk13 MEk73 MIk15 MO",
      "k23 MUk06 NAk24 NEk30 NIk52 NOk55 NUk03 PAk72 PEk39 PIk11 POk50 PUk16 QAk78 QEk21 QI",
      "k32 QO"]),
   (0x10028,
     ["aLINEAR B SYLLABLE B060 RAk27 REk53 RIk02 ROk26 RUk31 SAk09 SEk41 SIk12 SOk58 SUk59 TA",
      "k04 TEk37 TIk05 TOk69 TUk54 WAk75 WEk40 WIk42 WO"]),
   (0x1003C, ["aLINEAR B SYLLABLE B017 ZAk74 ZE"]),
   (0x1003F,
     ["aLINEAR B SYLLABLE B020 ZOk25 A2k43 A3k85 AUk71 DWEk90 DWOk48 NWAk29 PU2k62 PTEk76 RA2",
      "k33 RA3k68 RO2k66 TA2k87 TWEk91 TWO"]),
   (0x10050, ["aLINEAR B SYMBOL B018j19j22j34j47j49j56j63j64j79j82j83j86j89"]),
   (0x10080,
     ["aLINEAR B IDEOGRAM B100 MANk02 WOMANk04 DEERk05 EQUIDlF MARElM STALLIONk06F EWElM RAM",
      "k07F SHE-GOATlM HE-GOATk08F SOWlM BOARk09F COWlM BULLk20 WHEATk21 BARLEYk22 OLIVE",
      "k23 SPICEk25 CYPERUSe MONOGRAM B127 KAPOk28 KANAKOe IDEOGRAM B130 OILk31 WINEk32",
      "e MONOGRAM B133 AREPAk35 MERIe IDEOGRAM B140 BRONZEk41 GOLDk42k45 WOOLk46k50k51 HORNk52",
      "k53k54e MONOGRAM B156 TURO2e IDEOGRAM B157k58k59 CLOTHk60k61k62 GARMENTk63 ARMOURk64k65",
      "k66k67k68k69k70k71k72k73 MONTHk74k76 TREEk77k78k79k80k81k82k83k84k85k89k90k91 HELMET",
      "jB220 FOOTSTOOLk25 BATHTUBk30 SPEARk31 ARROWk32k33 SWORDk34k36k40 WHEELED CHARIOT",
      "k41 CHARIOTk42 CHARIOT FRAMEk43 WHEELk45k46e MONOGRAM B247 DIPTEe IDEOGRAM B248k49k51k52",
      "k53k54 DARTk55k56k57k58k59jVESSEL B155n200o1o2o3o4o5o6o7o8o9n210o1o2o3o4o5o6o7o8o9n221o2",
      "o6o7o8o9n250n305"]),
   (0x10100, ["aAEGEAN WORD SEPARATOR LINElDOTd CHECK MARK"]),
   (0x10107,
     ["aAEGEAN NUMBER ONEhTWOhTHREEhFOURhFIVEhSIXhSEVENhEIGHThNINEhTENhTWENTYhTHIRTYhFORTY",
      "hFIFTYhSIXTYhSEVENTYhEIGHTYhNINETYhONE HUNDREDhTWO HUNDREDhTHREE HUNDREDhFOUR HUNDRED",
      "hFIVE HUNDREDhSIX HUNDREDhSEVEN HUNDREDhEIGHT HUNDREDhNINE HUNDREDhONE THOUSAND",
      "hTWO THOUSANDhTHREE THOUSANDhFOUR THOUSANDhFIVE THOUSANDhSIX THOUSANDhSEVEN THOUSAND",
      "hEIGHT THOUSANDhNINE THOUSANDhTEN THOUSANDhTWENTY THOUSANDhTHIRTY THOUSAND",
      "hFORTY THOUSANDhFIFTY THOUSANDhSIXTY THOUSANDhSEVENTY THOUSANDhEIGHTY THOUSAND",
      "hNINETY THOUSAND"]),
   (0x10137,
     ["aAEGEAN WEIGHT BASE UNIThFIRST SUBUNIThSECOND SUBUNIThTHIRD SUBUNIThFOURTH SUBUNIT",
      "d DRY MEASURE FIRST SUBUNITd LIQUID MEASURE FIRST SUBUNITd MEASURE SECOND SUBUNIT",
      "h THIRD SUBUNITaGREEK ACROPHONIC ATTIC ONE QUARTERn HALFn DRACHMAl FIVEmIFTYmIVE HUNDRED",
      "oTHOUSANDmIFTY THOUSANDmIVE TALENTSl TEN TALENTSl FIFTY TALENTSl ONE HUNDRED TALENTS",
      "l FIVE HUNDRED TALENTSl ONE THOUSAND TALENTSl FIVE THOUSAND TALENTSoSTATERSl TEN STATERS",
      "l FIFTY STATERSl ONE HUNDRED STATERSl FIVE HUNDRED STATERSl ONE THOUSAND STATERS",
      "l TEN THOUSAND STATERSl FIFTY THOUSAND STATERSl TEN MNASi HERAEUM ONE PLETHRON",
      "i THESPIAN ONEi HERMIONIAN ONEi EPIDAUREAN TWOi THESPIAN TWOi CYRENAIC TWO DRACHMAS",
      "i EPIDAUREAN TWO DRACHMASi TROEZENIAN FIVEoTENpN ALTERNATE FORMi HERMIONIAN TEN",
      "i MESSENIAN TENi THESPIAN TENnTHIRTYjROEZENIAN FIFTYqY ALTERNATE FORMi HERMIONIAN FIFTY",
      "i THESPIAN FIFTYnONE HUNDREDnTHREE HUNDREDi EPIDAUREAN FIVE HUNDRED",
      "i TROEZENIAN FIVE HUNDREDjHESPIAN FIVE HUNDREDi CARYSTIAN FIVE HUNDRED",
      "i NAXIAN FIVE HUNDREDi THESPIAN ONE THOUSANDnFIVE THOUSANDi DELPHIC FIVE MNAS",
      "i STRATIAN FIFTY MNASdONE HALF SIGNjN ALTERNATE FORMdTWO THIRDS SIGNdTHREE QUARTERS SIGN",
      "dYEAR SIGNdTALENT SIGNdDRACHMA SIGNdOBOL SIGNdTWO OBOLS SIGNdTHREE OBOLS SIGN",
      "dFOUR OBOLS SIGNdFIVE OBOLS SIGNdMETRETES SIGNdKYATHOS BASE SIGNdLITRA SIGNdOUNKIA SIGN",
      "dXESTES SIGNdARTABE SIGNeOURA SIGNdGRAMMA SIGNdTRYBLION BASE SIGNdZERO SIGN",
      "dONE QUARTER SIGNdSINUSOID SIGNdINDICTION SIGNaNOMISMA SIGN"]),
   (0x10190,
     ["aROMAN SEXTANS SIGNdUNCIA SIGNdSEMUNCIA SIGNeXTULA SIGNdDIMIDIA SEXTULA SIGN",
      "dSILIQUA SIGNdDENARIUS SIGNdQUINARIUS SIGNdSESTERTIUS SIGNdDUPONDIUS SIGNdAS SIGN",
      "dCENTURIAL SIGNaASCIA SYMBOL"]),
   (0x101A0, ["aGREEK SYMBOL TAU RHO"]),
   (0x101D0,
     ["aPHAISTOS DISC SIGN PEDESTRIANkLUMED HEADj TATTOOED HEADj CAPTIVEkHILDj WOMANj HELMET",
      "j GAUNTLETj TIARAj ARROWj BOWj SHIELDj CLUBj MANACLESkATTOCKj SAWj LIDj BOOMERANG",
      "j CARPENTRY PLANEj DOLIUMj COMBj SLINGj COLUMNj BEEHIVEj SHIPj HORNkIDEj BULLS LEGj CAT",
      "j RAMj EAGLEj DOVEj TUNNYj BEEj PLANE TREEj VINEj PAPYRUSj ROSETTEj LILYj OX BACKj FLUTE",
      "j GRATERj STRAINERkMALL AXEj WAVY BANDj COMBINING OBLIQUE STROKE"]),
   (0x10280,
     ["aLYCIAN LETTER AhEhBhBHhGhDhIhWhZhTHhJhKhQhLhMhNhMMhNNhUhPhKKhRhShThTThANhENhHhX"]),
   (0x102A0,
     ["aCARIAN LETTER AhP2hDhLhUUUhRhLDhA2hQhBhMhOhD2hThSHi2hShC-18hUhNNhXhNhTT2hPhSShIhEhUUUU",
      "hKhK2hNDhUUhGhG2hSTi2hNGhIIhC-39hTThUUU2hRRhMBi2i3i4hLD2hE2hUUU3"]),
   (0x102E0,
     ["aCOPTIC EPACT THOUSANDS MARKg DIGIT ONEj TWOkHREEj FOURkIVEj SIXkEVENj EIGHTj NINE",
      "g NUMBER TENkTWENTYkTHIRTYkFORTYkFIFTYkSIXTYkSEVENTYkEIGHTYkNINETYkONE HUNDRED",
      "kTWO HUNDREDkTHREE HUNDREDkFOUR HUNDREDkFIVE HUNDREDkSIX HUNDREDkSEVEN HUNDRED",
      "kEIGHT HUNDREDkNINE HUNDRED"]),
   (0x10300,
     ["aOLD ITALIC LETTER AjBEjKEjDEjEjVEjZEjHEjTHEjIjKAjELjEMjENjESHjOjPEjSHEjKUjERjESjTEjU",
      "jEKSjPHEjKHEjEFjERSjCHEjIIjUUjESSf NUMERAL ONEj FIVEj TENj FIFTY"]),
   (0x1032D,
     ["aOLD ITALIC LETTER YEjNORTHERN TSEjSOUTHERN TSEaGOTHIC LETTER AHSAhBAIRKANhGIBAhDAGS",
      "hAIHVUShQAIRTHRAhIUJAhHAGLhTHIUTHhEIShKUSMAhLAGUShMANNAhNAUTHShJERhURUShPAIRTHRAhNINETY",
      "hRAIDAhSAUILhTEIWShWINJAhFAIHUhIGGWShHWAIRhOTHALhNINE HUNDRED"]),
   (0x10350,
     ["aOLD PERMIC LETTER ANjBURjGAIjDOIjEjZHOIjDZHOIjZATAjDZITAjIjKOKEjLEIjMENOEjNENOEjVOOI",
      "jPEEIjREIjSIIjTAIjUjCHERYjSHOOIkCHOOIjYRYjYERUjOjOOjEFjHAjTSIUjVERjYERkRIjYATjIEjYUjYA",
      "jIAaCOMBINING OLD PERMIC LETTER ANoDOIoZATAoNENOEoSII"]),
   (0x10380,
     ["aUGARITIC LETTER ALPAiBETAiGAMLAiKHAiDELTAiHOiWOiZETAiHOTAiTETiYODiKAFiSHINiLAMDAiMEM",
      "iDHALiNUNiZUiSAMKAiAINiPUiSADEiQOPAiRASHAiTHANNAiGHAINiTOiIiUiSSU"]),
   (0x1039F,
     ["aUGARITIC WORD DIVIDERaOLD PERSIAN SIGN Ai Ii Ui KAjUi GAjUi XAi CAi JAjIi TAjUi DAjIjU",
      "i THAi PAi BAi FAi NAjUi MAjIjUi YAi VAjIi RAjUi LAi SAi ZAi SHAjSAi HA"]),
   (0x103C8,
     ["aOLD PERSIAN SIGN AURAMAZDAAnA-2nAHAi XSHAAYATHIYAi DAHYAAUSHn-2i BAGAjUUMISH",
      "gWORD DIVIDERgNUMBER ONEj TWOkENkWENTYj HUNDRED"]),
   (0x10400,
     ["aDESERET CAPITAL LETTER LONG IoEoAoAHoOoOOl SHORT Io Eo ApHo OpOl AYl OWl WUl YEEl H",
      "l PEEl BEEl TEEl DEEl CHEEl JEEl KAYl GAYl EFl VEEl ETHl THEEl ESl ZEEl ESHl ZHEEl ERmL",
      "mMmNmNGl OIl EWeSMALL LETTER LONG InEnAnAHnOnOOk SHORT In En AoHn OoOk AYk OWk WUk YEE",
      "k Hk PEEk BEEk TEEk DEEk CHEEk JEEk KAYk GAYk EFk VEEk ETHk THEEk ESk ZEEk ESHk ZHEEk ER",
      "lLlMlNlNGk OIk EWaSHAVIAN LETTER PEEPh TOTh KICKh FEEh THIGHh SOiUREh CHURCHh YEAh HUNG",
      "h BIBh DEADh GAGh VOWh THEYh ZOOh MEASUREh JUDGEh WOEh HA-HAh LOLLh MIMEh IFh EGGh ASH",
      "iDOh ONh WOOLh OUTh AHh ROARh NUNh EATh AGEh ICEh UPh OAKiOZEiILh AWEiREh ORh AIRh ERR",
      "h ARRAYh EARh IANh YEWaOSMANYA LETTER ALEFh BAh TAh JAh XAh KHAh DEELh RAh SAiHIINh DHA",
      "h CAYNh GAh FAh QAAFh KAAFh LAANh MIINh NUUNh WAWh HAh YAh Ah Eh Ih Oh Uh AAh EEh OO"]),
   (0x104A0, ["aOSMANYA DIGIT ZEROhONEhTWOhTHREEhFOURhFIVEhSIXhSEVENhEIGHThNINE"]),
   (0x104B0,
     ["aOSAGE CAPITAL LETTER AlIlINlHk BRAk CHAk EHCHAllINk HAlYAk Ik KAk EHKAk KYAk LAk MAk NA",
      "k OlINk PAk EHPAk SAlHAk TAk EHTAk TSAk EHTSAk TSHAk DHAk Uk WAk KHAk GHAk ZAlHA"]),
   (0x104D8,
     ["aOSAGE SMALL LETTER AkIkINkHj BRAj CHAj EHCHAkkINj HAkYAj Ij KAj EHKAj KYAj LAj MAj NA",
      "j OkINj PAj EHPAj SAkHAj TAj EHTAj TSAj EHTSAj TSHAj DHAj Uj WAj KHAj GHAj ZAkHA"]),
   (0x10500,
     ["aELBASAN LETTER Ah BEh CEiHEh DEh NDEh DHEh EIih FEh GEiJEh HEh Ih JEh KEh LEiLEh MEh NE",
      "iAiJEh Oh PEh QEh REiREh SEiHEh TEiHEh Uh VEh XEh Yh ZEiHEh GHEiHAMMAh KHE"]),
   (0x10530,
     ["aCAUCASIAN ALBANIAN LETTER ALTnBETnGIMnDATnEBnZARLnEYNnZHILnTASnCHAnYOWDnZHAnIRBnSHAnLAN",
      "nINYAnXEYNnDYANnCARnJHOXnKARnLYITnHEYTnQAYnAORnCHOYoInCYAYnMAQnQARnNOWCnDZYAYnSHAKnJAYN",
      "nONnTYAYnFAMnDZAYnCHATnPENnGHEYSnRATnSEYKnVEYZnTIWRnSHOYnIWNnCYAWnCAYNnYAYDnPIWRnKIW"]),
   (0x1056F,
     ["aCAUCASIAN ALBANIAN CITATION MARKaVITHKUQI CAPITAL LETTER AmBBEmBEmCEmCHEmDEmDHEmEImEmFE",
      "mGA"]),
   (0x1057C,
     ["aVITHKUQI CAPITAL LETTER HAmHHAmImIJEmJEmKAmLAmLLAmMEmNEmNJEmOmPEmQAmRE"]),
   (0x1058C, ["aVITHKUQI CAPITAL LETTER SEmSHEmTEmTHEmUmVEmXE"]),
   (0x10594, ["aVITHKUQI CAPITAL LETTER YmZE"]),
   (0x10597, ["aVITHKUQI SMALL LETTER AlBBElBElCElCHElDElDHElEIlElFElGA"]),
   (0x105A3, ["aVITHKUQI SMALL LETTER HAlHHAlIlIJElJElKAlLAlLLAlMElNElNJElOlPElQAlRE"]),
   (0x105B3, ["aVITHKUQI SMALL LETTER SElSHElTElTHElUlVElXE"]),
   (0x105BB, ["aVITHKUQI SMALL LETTER YlZE"]),
   (0x10600,
     ["aLINEAR A SIGN AB001j2j3j4j5j6j7j8j9i010j1j3j6j7i020j1j1Fj1Mj2j2Fj2Mj3j3Mj4j6j7j8hA028B",
      "hAB029i030j1j4j7j8j9i040j1j4j5j6j7j8j9i050j1j3j4j5j6j7j8j9i060j1j5j6j7j9i070j3j4j6j7j8j9",
      "i080j1j2j5j6j7hA100-102hAB118i120hA120BhAB122j3i131Aj1BhA131ChAB164i171i180j8i191hA301",
      "i02i03i04i05i06i07i08i09AjBjCi10i11i12i13AjBjCi14i15i16i17i18i19i20i21i22i23i24i25i26i27",
      "i28i29i30i31i32i33i34i35i36i37i38i39i40i41i42i43i44i45i46i47i48i49i50i51i52i53i54i55i56",
      "i57i58i59i60i61i62i63i64i65i66i67i68i69i70i71hA400-VASi01-VASi02-VASi03-VASi04-VAS",
      "i05-VASi06-VASi07-VASi08-VASi09-VASi10-VASi11-VASi12-VASi13-VASi14-VASi15-VASi16-VAS",
      "i17-VASi18-VAShA501i02i03i04i05i06i08i09i10i11i12i13i15i16i20i21i23i24i25i26i27i28i29i30",
      "i31i32i34i35i36i37i38i39i40i41i42i45i47i48i49i50i51i52i53i54i55i56i57i59i63i64i65i66i68",
      "i69i70i71i72i73i74i75i76i77i78i79i80i81i82i83i84i85i86i87i88i89i91i92i94i95i96i98hA600",
      "i01i02i03i04i06i08i09i10i11i12i13i14i15i16i17i18i19i20i21i22i23i24i26i27i28i29i34i37i38",
      "i40i42i43i44i45i46i48i49i51i52i53i54i55i56i57i58i59i60i61i62i63i64"]),
   (0x10740,
     ["aLINEAR A SIGN A701 Ai02 Bi03 Di04 Ei05 Fi06 Hi07 Ji08 Ki09 Lj-2 L2j-3 L3j-4 L4j-6 L6",
      "i10 Wi11 Xi12 Yi13 OMEGAi14 ABBi15 BBi17 DDi26 EYYYi32 JE"]),
   (0x10760, ["aLINEAR A SIGN A800i01i02i03i04i05i06i07"]),
   (0x10780,
     ["aMODIFIER LETTER SMALL CAPITAL AAiSUPERSCRIPT TRIANGULAR COLONoHALF TRIANGULAR COLON",
      "iSMALL AElCAPITAL BlB WITH HOOK"]),
   (0x10787,
     ["aMODIFIER LETTER SMALL DZ DIGRAPHq WITH RETROFLEX HOOKtCURLlDEZH DIGRAPHlD WITH TAIL",
      "o HOOKqK AND TAILlREVERSED ElCLOSED REVERSED OPEN ElFENG DIGRAPHlRAMS HORNlCAPITAL G",
      "lG WITH HOOKlCAPITAL G WITH HOOKlH WITH STROKElCAPITAL HlHENG WITH HOOK",
      "lDOTLESS J WITH STROKE AND HOOKlLS DIGRAPHlLZ DIGRAPHlL WITH BELTlCAPITAL L WITH BELT",
      "lL WITH RETROFLEX HOOK AND BELTlLEZHn WITH RETROFLEX HOOKlTURNED Yp WITH BELT",
      "lO WITH STROKElCAPITAL OElCLOSED OMEGAlQlTURNED R WITH LONG LEGw AND RETROFLEX HOOK",
      "lR WITH TAILo FISHHOOKlCAPITAL RlTC DIGRAPH WITH CURLlTS DIGRAPHq WITH RETROFLEX HOOK",
      "lTESH DIGRAPHlT WITH RETROFLEX HOOKlV WITH RIGHT HOOK"]),
   (0x107B2,
     ["aMODIFIER LETTER SMALL CAPITAL YiGLOTTAL STOP WITH STROKE",
      "iREVERSED GLOTTAL STOP WITH STROKEiBILABIAL CLICKiDENTAL CLICKiLATERAL CLICK",
      "iALVEOLAR CLICKiRETROFLEX CLICK WITH RETROFLEX HOOKiSMALL S WITH CURL"]),
   (0x10800, ["aCYPRIOT SYLLABLE Ai Ei Ii Oi Ui JA"]),
   (0x10808, ["aCYPRIOT SYLLABLE JO"]),
   (0x1080A,
     ["aCYPRIOT SYLLABLE KAjEjIjOjUi LAjEjIjOjUi MAjEjIjOjUi NAjEjIjOjUi PAjEjIjOjUi RAjEjIjOjU",
      "i SAjEjIjOjUi TAjEjIjOjUi WAjEjIjO"]),
   (0x10837, ["aCYPRIOT SYLLABLE XAjE"]),
   (0x1083C, ["aCYPRIOT SYLLABLE ZA"]),
   (0x1083F,
     ["aCYPRIOT SYLLABLE ZOaIMPERIAL ARAMAIC LETTER ALEPHmBETHmGIMELmDALETHmHEmWAWmZAYINmHETH",
      "mTETHmYODHmKAPHmLAMEDHmMEMmNUNmSAMEKHmAYINmPEmSADHEmQOPHmRESHmSHINmTAW"]),
   (0x10857,
     ["aIMPERIAL ARAMAIC SECTION SIGNi NUMBER ONEmTWOmTHREEmTENmTWENTYmONE HUNDREDoTHOUSAND",
      "mTEN THOUSANDaPALMYRENE LETTER ALEPHi BETHi GIMELi DALETHi HEi WAWi ZAYINi HETHi TETH",
      "i YODHi KAPHi LAMEDHi MEMi FINAL NUNi NUNi SAMEKHi AYINi PEi SADHEi QOPHi RESHi SHIN",
      "i TAWgFT-POINTING FLEURONfRIGHT-POINTING FLEURONfNUMBER ONEi TWOjHREEi FOURjIVEi TEN",
      "jWENTYaNABATAEAN LETTER FINAL ALEPHi ALEPHi FINAL BETHi BETHi GIMELi DALETHi FINAL HE",
      "i HEi WAWi ZAYINi HETHi TETHi FINAL YODHi YODHi FINAL KAPHi KAPHi FINAL LAMEDHi LAMEDH",
      "i FINAL MEMi MEMi FINAL NUNi NUNi SAMEKHi AYINi PEi SADHEi QOPHi RESHi FINAL SHINi SHIN",
      "i TAW"]),
   (0x108A7,
     ["aNABATAEAN NUMBER ONEi TWOjHREEi FOURfCRUCIFORM NUMBER FOURfNUMBER FIVEi TENjWENTY",
      "i ONE HUNDRED"]),
   (0x108E0,
     ["aHATRAN LETTER ALEPHhBETHhGIMELhDALETH-RESHhHEhWAWhZAYNhHETHhTETHhYODHhKAPHhLAMEDHhMEM",
      "hNUNhSAMEKHhAYNhPEhSADHEhQOPH"]),
   (0x108F4, ["aHATRAN LETTER SHINhTAW"]),
   (0x108FB,
     ["aHATRAN NUMBER ONEhFIVEhTENhTWENTYhONE HUNDREDaPHOENICIAN LETTER ALFjBETjGAMLjDELTjHE",
      "jWAUjZAIjHETjTETjYODjKAFjLAMDjMEMjNUNjSEMKjAINjPEjSADEjQOFjROSHjSHINjTAUf NUMBER ONEjTEN",
      "jTWENTYjONE HUNDREDjTWOjTHREE"]),
   (0x1091F,
     ["aPHOENICIAN WORD SEPARATORaLYDIAN LETTER AhBhGhDhEhVhIhYhKhLhMhNhOhRhSShThUhFhQhShTThAN",
      "hENhLYhNNhC"]),
   (0x1093F, ["aLYDIAN TRIANGULAR MARK"]),
   (0x10980,
     ["aMEROITIC HIEROGLYPHIC LETTER Ao Eo Io Oo YAo WAo BApA-2o PAo MAo NApA-2pEpE-2o RApA-2",
      "o LAo KHAo HHAo SApA-2pEo KAo QAo TApA-2pEpE-2pOo DAlSYMBOL VIDJqJ-2e CURSIVE LETTER AmE",
      "mImOmYAmWAmBAmPAmMAmNAmNEmRAmLAmKHAmHHAmSAmARCHAIC SAmSEmKAmQAmTAmTEmTOmDA"]),
   (0x109BC,
     ["aMEROITIC CURSIVE FRACTION ELEVEN TWELFTHSnONE HALFi LOGOGRAM RMTnIMNi NUMBER ONEmTWO",
      "mTHREEmFOURmFIVEmSIXmSEVENmEIGHTmNINEmTENmTWENTYmTHIRTYmFORTYmFIFTYmSIXTYmSEVENTY"]),
   (0x109D2,
     ["aMEROITIC CURSIVE NUMBER ONE HUNDREDmTWO HUNDREDmTHREE HUNDREDmFOUR HUNDREDmFIVE HUNDRED",
      "mSIX HUNDREDmSEVEN HUNDREDmEIGHT HUNDREDmNINE HUNDREDmONE THOUSANDmTWO THOUSAND",
      "mTHREE THOUSANDmFOUR THOUSANDmFIVE THOUSANDmSIX THOUSANDmSEVEN THOUSANDmEIGHT THOUSAND",
      "mNINE THOUSANDmTEN THOUSANDmTWENTY THOUSANDmTHIRTY THOUSANDmFORTY THOUSAND",
      "mFIFTY THOUSANDmSIXTY THOUSANDmSEVENTY THOUSANDmEIGHTY THOUSANDmNINETY THOUSAND",
      "mONE HUNDRED THOUSANDmTWO HUNDRED THOUSANDmTHREE HUNDRED THOUSANDmFOUR HUNDRED THOUSAND",
      "mFIVE HUNDRED THOUSANDmSIX HUNDRED THOUSANDmSEVEN HUNDRED THOUSAND",
      "mEIGHT HUNDRED THOUSANDmNINE HUNDRED THOUSANDi FRACTION ONE TWELFTHnTWO TWELFTHS",
      "nTHREE TWELFTHSnFOUR TWELFTHSnFIVE TWELFTHSnSIX TWELFTHSnSEVEN TWELFTHSnEIGHT TWELFTHS",
      "nNINE TWELFTHSnTEN TWELFTHSaKHAROSHTHI LETTER Af VOWEL SIGN IlUlVOCALIC R"]),
   (0x10A05, ["aKHAROSHTHI VOWEL SIGN ElO"]),
   (0x10A0C,
     ["aKHAROSHTHI VOWEL LENGTH MARKf SIGN DOUBLE RING BELOWiANUSVARAiVISARGAf LETTER KAjKHAjGA",
      "jGHA"]),
   (0x10A15, ["aKHAROSHTHI LETTER CAjCHAjJA"]),
   (0x10A19,
     ["aKHAROSHTHI LETTER NYAjTTAkHAjDDAkHAjNNAjTAjTHAjDAjDHAjNAjPAjPHAjBAjBHAjMAjYAjRAjLAjVA",
      "jSHAjSSAjSAjZAjHAjKKAjTTTHAkTAjVHA"]),
   (0x10A38, ["aKHAROSHTHI SIGN BAR ABOVEiCAUDAiDOT BELOW"]),
   (0x10A3F,
     ["aKHAROSHTHI VIRAMAf DIGIT ONEi TWOjHREEi FOURf NUMBER TENjTWENTYjONE HUNDREDlTHOUSAND",
      "f FRACTION ONE HALF"]),
   (0x10A50,
     ["aKHAROSHTHI PUNCTUATION DOTl SMALL CIRCLEl CIRCLEmRESCENT BARl MANGALAMl LOTUSl DANDA",
      "mOUBLE DANDAl LINES"]),
   (0x10A60,
     ["aOLD SOUTH ARABIAN LETTER HEm LAMEDHm HETHm MEMm QOPHm WAWm SHINm RESHm BETHm TAWm SAT",
      "m KAPHm NUNm KHETHm SADHEnAMEKHm FEm ALEFnYNm DHADHEm GIMELm DALETHm GHAYNm TETHm ZAYN",
      "m DHALETHm YODHm THAWnHETHjNUMBER ONEm FIFTYkMERIC INDICATORcNORTH ARABIAN LETTER HEH",
      "m LAMm HAHm MEEMm QAFm WAWm ES-2m REHm BEHm TEHm ES-1m KAFm NOONm KHAHm SADm ES-3m FEH",
      "m ALEFnINm DADm GEEMm DALm GHAINm TAHm ZAINm THALm YEHm THEHm ZAHjNUMBER ONEm TENnWENTY"]),
   (0x10AC0,
     ["aMANICHAEAN LETTER ALEPHjBETHjBHETHjGIMELjGHIMELjDALETHjHEjWAWf SIGN UDf LETTER ZAYIN",
      "jZHAYINjJAYINjJHAYINjHETHjTETHjYODHjKAPHjXAPHjKHAPHjLAMEDHjDHAMEDHjTHAMEDHjMEMjNUN",
      "jSAMEKHjAYINjAAYINjPEjFEjSADHEjQOPHjXOPHjQHOPHjRESHjSHINjSSHINjTAW",
      "f ABBREVIATION MARK ABOVEo BELOW"]),
   (0x10AEB,
     ["aMANICHAEAN NUMBER ONEjFIVEjTENjTWENTYjONE HUNDREDf PUNCTUATION STARl FLEURON",
      "l DOUBLE DOT WITHIN DOTmOT WITHIN DOTnl TWO DOTSl LINE FILLER"]),
   (0x10B00,
     ["aAVESTAN LETTER AiAiOiAOiNiANiEiEEh EiEh OiOh IiIh UiUh KEh XEiYEiVEh GEiGEiHEh CEh JE",
      "h TEiHEh DEiHEh TTEh PEh FEh BEiHEh NGEiGYEiGVEiEiYEiNEh MEh HMEh YYEiEh VEh REh LEh SE",
      "h ZEh SHEh ZHEh SHYEiSHEh HE"]),
   (0x10B39,
     ["aAVESTAN ABBREVIATION MARKaTINY TWO DOTS OVER ONE DOT PUNCTUATION",
      "aSMALL TWO DOTS OVER ONE DOT PUNCTUATIONaLARGE TWO DOTS OVER ONE DOT PUNCTUATION",
      "dONE DOT OVER TWO DOTS PUNCTUATIONdTWO RINGS OVER ONE RING PUNCTUATION",
      "dONE RING OVER TWO RINGS PUNCTUATIONaINSCRIPTIONAL PARTHIAN LETTER ALEPHpBETHpGIMEL",
      "pDALETHpHEpWAWpZAYINpHETHpTETHpYODHpKAPHpLAMEDHpMEMpNUNpSAMEKHpAYINpPEpSADHEpQOPHpRESH",
      "pSHINpTAW"]),
   (0x10B58,
     ["aINSCRIPTIONAL PARTHIAN NUMBER ONEpTWOpTHREEpFOURpTENpTWENTYpONE HUNDREDrTHOUSAND",
      "iHLAVI LETTER ALEPHo BETHo GIMELo DALETHo HEo WAW-AYIN-RESHo ZAYINo HETHo TETHo YODH",
      "o KAPHo LAMEDHo MEM-QOPHo NUNo SAMEKHo PEo SADHEpHINo TAW"]),
   (0x10B78,
     ["aINSCRIPTIONAL PAHLAVI NUMBER ONEo TWOpHREEo FOURo TENpWENTYo ONE HUNDREDq THOUSAND",
      "aPSALTER PAHLAVI LETTER ALEPHl BETHl GIMELl DALETHl HEl WAW-AYIN-RESHl ZAYINl HETHl YODH",
      "l KAPHl LAMEDHl MEM-QOPHl NUNl SAMEKHl PEl SADHEmHINl TAW"]),
   (0x10B99,
     ["aPSALTER PAHLAVI SECTION MARKiTURNED SECTION MARKiFOUR DOTS WITH CROSSp DOT"]),
   (0x10BA9, ["aPSALTER PAHLAVI NUMBER ONEl TWOmHREEl FOURl TENmWENTYl ONE HUNDRED"]),
   (0x10C00,
     ["aOLD TURKIC LETTER ORKHON AjYENISEI AnAEjORKHON IjYENISEI InEjORKHON OnEjYENISEI OE",
      "jORKHON ABjYENISEI ABjORKHON AEBjYENISEI AEBjORKHON AGjYENISEI AGjORKHON AEGjYENISEI AEG",
      "jORKHON ADjYENISEI ADjORKHON AEDm EZjYENISEI EZjORKHON AYjYENISEI AYjORKHON AEY",
      "jYENISEI AEYjORKHON AEKjYENISEI AEKjORKHON OEKjYENISEI OEKjORKHON ALjYENISEI AL",
      "jORKHON AELm ELTnMm ANnENjYENISEI AENjORKHON ENTjYENISEI ENTjORKHON ENCjYENISEI ENC",
      "jORKHON ENYjYENISEI ENYnANGjORKHON ENGjYENISEI AENGjORKHON EPm OPm ICm ECjYENISEI EC",
      "jORKHON AQjYENISEI AQjORKHON IQjYENISEI IQjORKHON OQjYENISEI OQjORKHON ARjYENISEI AR",
      "jORKHON AERnSnESnSHjYENISEI ASHjORKHON ESHjYENISEI ESHjORKHON ATjYENISEI ATjORKHON AET",
      "jYENISEI AETjORKHON OTm BASH"]),
   (0x10C80,
     ["aOLD HUNGARIAN CAPITAL LETTER ApAo EBo AMBo ECpNCpCSpDo ANDo Eo CLOSE Eo EEpFpGpGYpHo I",
      "pIo EJpKo AKo UNKo ELpLYpMpNpNYo OpOo NIKOLSBURG OEo RUDIMENTA OEo OEEo EPpMPpR",
      "o SHORT ERo ESpSZpTpNTpTYpCHo UpUo NIKOLSBURG UEo RUDIMENTA UEo EVpZpZSpNT-SHAPED SIGN",
      "o US"]),
   (0x10CC0,
     ["aOLD HUNGARIAN SMALL LETTER AoAn EBn AMBn ECoNCoCSoDn ANDn En CLOSE En EEoFoGoGYoHn IoI",
      "n EJoKn AKn UNKn ELoLYoMoNoNYn OoOn NIKOLSBURG OEn RUDIMENTA OEn OEEn EPoMPoRn SHORT ER",
      "n ESoSZoToNToTYoCHn UoUn NIKOLSBURG UEn RUDIMENTA UEn EVoZoZSoNT-SHAPED SIGNn US"]),
   (0x10CFA,
     ["aOLD HUNGARIAN NUMBER ONEk FIVEk TENk FIFTYk ONE HUNDREDm THOUSAND",
      "aHANIFI ROHINGYA LETTER Al BAl PAl TAmTAl JAl CAl HAl KHAl FAl DAmDAl RAmRAl ZAl SAmHA",
      "l KAl GAl LAl MAl NAl WAl KINNA WAl YAl KINNA YAl NGAmYAl VAiVOWEL AlIlUlElOiMARK SAKIN",
      "k NA KHONNAiSIGN HARBAHAYk TAHALAlANAlASSI"]),
   (0x10D30,
     ["aHANIFI ROHINGYA DIGIT ZEROlONElTWOlTHREElFOURlFIVElSIXlSEVENlEIGHTlNINE"]),
   (0x10E60,
     ["aRUMI DIGIT ONEf TWOgHREEf FOURgIVEf SIXgEVENf EIGHTf NINEc NUMBER TENgTWENTYgTHIRTY",
      "gFORTYgFIFTYgSIXTYgSEVENTYgEIGHTYgNINETYgONE HUNDREDgTWO HUNDREDgTHREE HUNDRED",
      "gFOUR HUNDREDgFIVE HUNDREDgSIX HUNDREDgSEVEN HUNDREDgEIGHT HUNDREDgNINE HUNDRED",
      "c FRACTION ONE HALFjQUARTERjTHIRDhTWO THIRDS"]),
   (0x10E80,
     ["aYEZIDI LETTER ELIFhBEhPEhPHEhTHEhSEhCIMhCHIMiHIMhHHAhXAhDALhZALhRAhRHAhZAhJAhSINhSHIN",
      "hSADhDADhTAhZEhEYNhXHEYNhFAhVAi ALTERNATE FORMhQAFhKAFhKHAFhGAFhLAMhMIMhNUNhUMhWAWhOWhEW",
      "hHAYhYOThET"]),
   (0x10EAB, ["aYEZIDI COMBINING HAMZA MARKi MADDA MARKd HYPHENATION MARK"]),
   (0x10EB0, ["aYEZIDI LETTER LAM WITH DOT ABOVEhYOT WITH CIRCUMFLEX ABOVE"]),
   (0x10F00,
     ["aOLD SOGDIAN LETTER ALEPHj FINAL ALEPHj BETHj FINAL BETHj GIMELj HEj FINAL HEj WAW",
      "j ZAYINj HETHj YODHj KAPHj LAMEDHj MEMj NUNj FINAL NUNo WITH VERTICAL TAILj SAMEKHj AYIN",
      "kLTERNATE AYINj PEj SADHEj FINAL SADHEp WITH VERTICAL TAILj RESH-AYIN-DALETHj SHINj TAW",
      "j FINAL TAWo WITH VERTICAL TAILgNUMBER ONEj TWOkHREEj FOURkIVEj TENkWENTYkHIRTY",
      "j ONE HUNDREDgFRACTION ONE HALFgLIGATURE AYIN-DALETH"]),
   (0x10F30,
     ["aSOGDIAN LETTER ALEPHh BETHh GIMELh HEh WAWh ZAYINh HETHh YODHh KAPHh LAMEDHh MEMh NUN",
      "h SAMEKHh AYINh PEh SADHEh RESH-AYINh SHINh TAWh FETHh LESHeINDEPENDENT SHIN",
      "eCOMBINING DOT BELOWjTWO DOTS BELOWjDOT ABOVEjTWO DOTS ABOVEjCURVE ABOVEmBELOW",
      "jHOOK ABOVEl BELOWjLONG HOOK BELOWjRESH BELOWjSTROKE BELOWeNUMBER ONEh TENiWENTY",
      "h ONE HUNDREDePUNCTUATION TWO VERTICAL BARSsS WITH DOTSkCIRCLE WITH DOT",
      "kTWO CIRCLES WITH DOTSkHALF CIRCLE WITH DOT"]),
   (0x10F70,
     ["aOLD UYGHUR LETTER ALEPHjBETHjGIMEL-HETHjWAWjZAYINjFINAL HETHjYODHjKAPHjLAMEDHjMEMjNUN",
      "jSAMEKHjPEjSADHEjRESHjSHINjTAWjLESHf COMBINING DOT ABOVEm BELOWk TWO DOTS ABOVEpBELOW",
      "f PUNCTUATION BARl TWO BARSn DOTSl FOUR DOTS"]),
   (0x10FB0,
     ["aCHORASMIAN LETTER ALEPHjSMALL ALEPHjBETHjGIMELjDALETHjHEjWAWjCURLED WAWjZAYINjHETHjYODH",
      "jKAPHjLAMEDHjMEMjNUNjSAMEKHjAYINjPEjRESHjSHINjTAWf NUMBER ONEjTWOjTHREEjFOURjTENjTWENTY",
      "jONE HUNDRED"]),
   (0x10FE0,
     ["aELYMAIC LETTER ALEPHh BETHh GIMELh DALETHh HEh WAWh ZAYINh HETHh TETHh YODHh KAPH",
      "h LAMEDHh MEMh NUNh SAMEKHh AYINh PEh SADHEh QOPHh RESHh SHINh TAWeLIGATURE ZAYIN-YODH"]),
   (0x11000,
     ["aBRAHMI SIGN CANDRABINDUgANUSVARAgVISARGAgJIHVAMULIYAgUPADHMANIYAd LETTER AhAAhIhIIhUhUU",
      "hVOCALIC RlRRlLlLLhEhAIhOhAUhKAhKHAhGAhGHAhNGAhCAhCHAhJAhJHAhNYAhTTAiHAhDDAiHAhNNAhTA",
      "hTHAhDAhDHAhNAhPAhPHAhBAhBHAhMAhYAhRAhLAhVAhSHAhSSAhSAhHAhLLAhOLD TAMIL LLLAmRRAmNNNA",
      "d VOWEL SIGN AAjBHATTIPROLU AAjIjIIjUjUUjVOCALIC RnRRnLnLLjEjAIjOjAUeIRAMAd DANDA",
      "eOUBLE DANDAd PUNCTUATION DOTkOUBLE DOTj LINEj CRESCENT BARj LOTUS"]),
   (0x11052,
     ["aBRAHMI NUMBER ONEhTWOhTHREEhFOURhFIVEhSIXhSEVENhEIGHThNINEhTENhTWENTYhTHIRTYhFORTY",
      "hFIFTYhSIXTYhSEVENTYhEIGHTYhNINETYhONE HUNDREDjTHOUSANDd DIGIT ZEROg ONEg TWOhHREEg FOUR",
      "hIVEg SIXhEVENg EIGHTg NINEd SIGN OLD TAMIL VIRAMAd LETTER OLD TAMIL SHORT EpO",
      "d VOWEL SIGN OLD TAMIL SHORT ErOd LETTER OLD TAMIL LLA"]),
   (0x1107F,
     ["aBRAHMI NUMBER JOINERaKAITHI SIGN CANDRABINDUgANUSVARAgVISARGAd LETTER AhAAhIhIIhUhUUhE",
      "hAIhOhAUhKAhKHAhGAhGHAhNGAhCAhCHAhJAhJHAhNYAhTTAiHAhDDAiDHAiHAhRHAhNNAhTAhTHAhDAhDHAhNA",
      "hPAhPHAhBAhBHAhMAhYAhRAhLAhVAhSHAhSSAhSAhHAd VOWEL SIGN AAjIjIIjUjUUjEjAIjOjAU",
      "d SIGN VIRAMAgNUKTAd ABBREVIATION SIGNd ENUMERATION SIGNd NUMBER SIGNd SECTION MARK",
      "d DOUBLE SECTION MARKeANDAeOUBLE DANDAd VOWEL SIGN VOCALIC R"]),
   (0x110CD, ["aKAITHI NUMBER SIGN ABOVE"]),
   (0x110D0,
     ["aSORA SOMPENG LETTER SAHkTAHkBAHkCAHkDAHkGAHkMAHkNGAHkLAHkNAHkVAHkPAHkYAHkRAHkHAHkKAH",
      "kJAHkNYAHkAHkEEHkIHkUHkOHkEHkMAE"]),
   (0x110F0,
     ["aSORA SOMPENG DIGIT ZEROj ONEj TWOkHREEj FOURkIVEj SIXkEVENj EIGHTj NINE"]),
   (0x11100,
     ["aCHAKMA SIGN CANDRABINDUgANUSVARAgVISARGAd LETTER AAhIhUhEhKAAhKHAAhGAAhGHAAhNGAAhCAA",
      "hCHAAhJAAhJHAAhNYAAhTTAAiHAAhDDAAiHAAhNNAAhTAAhTHAAhDAAhDHAAhNAAhPAAhPHAAhBAAhBHAAhMAA",
      "hYYAAhYAAhRAAhLAAhWAAhSAAhHAAd VOWEL SIGN AjIjIIjUjUUjEjAIjOjAUjOId O MARKd AU MARK",
      "d VIRAMAd MAAYYAA"]),
   (0x11136,
     ["aCHAKMA DIGIT ZEROg ONEg TWOhHREEg FOURhIVEg SIXhEVENg EIGHTg NINEd SECTION MARKd DANDA",
      "eOUBLE DANDAd QUESTION MARKd LETTER LHAAd VOWEL SIGN AAjEId LETTER VAA"]),
   (0x11150,
     ["aMAHAJANI LETTER AiIiUiEiOiKAiKHAiGAiGHAiCAiCHAiJAiJHAiNYAiTTAjHAiDDAjHAiNNAiTAiTHAiDA",
      "iDHAiNAiPAiPHAiBAiBHAiMAiRAiLAiVAiSAiHAiRRAe SIGN NUKTAe ABBREVIATION SIGNe SECTION MARK",
      "e LIGATURE SHRI"]),
   (0x11180,
     ["aSHARADA SIGN CANDRABINDUg ANUSVARAg VISARGAeLETTER AiAh IiIh UiUh VOCALIC RmRl LmLh E",
      "h AIh Oh AUh KAiHAh GAiHAh NGAh CAiHAh JAiHAh NYAh TTAiTHAh DDAiDHAh NNAh TAiHAh DAiHA",
      "h NAh PAiHAh BAiHAh MAh YAh RAh LAiLAh VAh SHAiSAiAh HAeVOWEL SIGN AAj IkIj UkU",
      "j VOCALIC RoRn LoLj Ej AIj Oj AUeSIGN VIRAMAg AVAGRAHAg JIHVAMULIYAg UPADHMANIYAeOM",
      "eDANDAeDOUBLE DANDAeABBREVIATION SIGNeSEPARATOReSANDHI MARKeSIGN NUKTA",
      "eVOWEL MODIFIER MARKeEXTRA SHORT VOWEL MARKeSUTRA MARKeVOWEL SIGN PRISHTHAMATRA E",
      "eSIGN INVERTED CANDRABINDUeDIGIT ZEROhONEhTWOhTHREEhFOURhFIVEhSIXhSEVENhEIGHThNINEeEKAM",
      "eSIGN SIDDHAMeHEADSTROKEeCONTINUATION SIGNeSECTION MARK-1k-2"]),
   (0x111E1,
     ["aSINHALA ARCHAIC DIGIT ONElTWOlTHREElFOURlFIVElSIXlSEVENlEIGHTlNINEiNUMBER TENmWENTY",
      "mHIRTYl FORTYmIFTYl SIXTYmEVENTYl EIGHTYl NINETYl ONE HUNDREDn THOUSAND"]),
   (0x11200, ["aKHOJKI LETTER AhAAhIhUhEhAIhOhAUhKAhKHAhGAhGGAhGHAhNGAhCAhCHAhJAhJJA"]),
   (0x11213,
     ["aKHOJKI LETTER NYAhTTAiHAhDDAiHAhNNAhTAhTHAhDAhDDDAhDHAhNAhPAhPHAhBAhBBAhBHAhMAhYAhRAhLA",
      "hVAhSAhHAhLLAd VOWEL SIGN AAjIjIIjUjEjAIjOjAUd SIGN ANUSVARAgVIRAMAgNUKTAgSHADDAd DANDA",
      "eOUBLE DANDAd WORD SEPARATORd SECTION MARKd DOUBLE SECTION MARKd ABBREVIATION SIGN",
      "d SIGN SUKUN"]),
   (0x11280, ["aMULTANI LETTER Ah Ih Uh Eh KAiHAh GA"]),
   (0x11288, ["aMULTANI LETTER GHA"]),
   (0x1128A, ["aMULTANI LETTER CAiHAh JAiJA"]),
   (0x1128F,
     ["aMULTANI LETTER NYAh TTAiTHAh DDAiDDAiDHAh NNAh TAiHAh DAiHAh NAh PAiHAh BA"]),
   (0x1129F, ["aMULTANI LETTER BHAh MAh YAh RAh LAh VAh SAh HAh RRAiHAeSECTION MARK"]),
   (0x112B0,
     ["aKHUDAWADI LETTER AjAi IjIi UjUi Ei AIi Oi AUi KAjHAi GAjGAjHAi NGAi CAjHAi JAjJAjHA",
      "i NYAi TTAjTHAi DDAjDDAi RRAi DDHAi NNAi TAjHAi DAjHAi NAi PAjHAi BAjBAjHAi MAi YAi RA",
      "i LAi VAi SHAjAi HAfSIGN ANUSVARAfVOWEL SIGN AAk IlIk UlUk Ek AIk Ok AUfSIGN NUKTA",
      "h VIRAMA"]),
   (0x112F0, ["aKHUDAWADI DIGIT ZEROiONEiTWOiTHREEiFOURiFIVEiSIXiSEVENiEIGHTiNINE"]),
   (0x11300, ["aGRANTHA SIGN COMBINING ANUSVARA ABOVEhANDRABINDUg ANUSVARAg VISARGA"]),
   (0x11305, ["aGRANTHA LETTER AiAh IiIh UiUh VOCALIC Rl L"]),
   (0x1130F, ["aGRANTHA LETTER EEh AI"]),
   (0x11313,
     ["aGRANTHA LETTER OOh AUh KAiHAh GAiHAh NGAh CAiHAh JAiHAh NYAh TTAiTHAh DDAiDHAh NNAh TA",
      "iHAh DAiHAh NA"]),
   (0x1132A, ["aGRANTHA LETTER PAiHAh BAiHAh MAh YAh RA"]),
   (0x11332, ["aGRANTHA LETTER LAiLA"]),
   (0x11335, ["aGRANTHA LETTER VAh SHAiSAiAh HA"]),
   (0x1133B,
     ["aCOMBINING BINDU BELOWaGRANTHA SIGN NUKTAg AVAGRAHAeVOWEL SIGN AAj IkIj UkUj VOCALIC RoR"]),
   (0x11347, ["aGRANTHA VOWEL SIGN EEj AI"]),
   (0x1134B, ["aGRANTHA VOWEL SIGN OOj AUeSIGN VIRAMA"]),
   (0x11350, ["aGRANTHA OM"]),
   (0x11357, ["aGRANTHA AU LENGTH MARK"]),
   (0x1135D,
     ["aGRANTHA SIGN PLUTAeLETTER VEDIC ANUSVARAk DOUBLE ANUSVARAiOCALIC RRl LL",
      "eVOWEL SIGN VOCALIC LoL"]),
   (0x11366, ["aCOMBINING GRANTHA DIGIT ZEROmONEmTWOmTHREEmFOURmFIVEmSIX"]),
   (0x11370, ["aCOMBINING GRANTHA LETTER Am KAm NAm VIm PA"]),
   (0x11400,
     ["aNEWA LETTER AgAAgIgIIgUgUUgVOCALIC RkRRkLkLLgEgAIgOgAUgKAgKHAgGAgGHAgNGAhHAgCAgCHAgJA",
      "gJHAgNYAhHAgTTAhHAgDDAhHAgNNAgTAgTHAgDAgDHAgNAgNHAgPAgPHAgBAgBHAgMAgMHAgYAgRAgRHAgLAgLHA",
      "gWAgSHAgSSAgSAgHAc VOWEL SIGN AAiIiIIiUiUUiVOCALIC RmRRmLmLLiEiAIiOiAUc SIGN VIRAMA",
      "fCANDRABINDUfANUSVARAfVISARGAfNUKTAfAVAGRAHAfFINAL ANUSVARAc OMc SIDDHIc DANDA",
      "dOUBLE DANDAc COMMAc GAP FILLERc ABBREVIATION SIGNc DIGIT ZEROf ONEf TWOgHREEf FOURgIVE",
      "f SIXgEVENf EIGHTf NINEdOUBLE COMMAc PLACEHOLDER MARK"]),
   (0x1145D,
     ["aNEWA INSERTION SIGNc SANDHI MARKc LETTER VEDIC ANUSVARAc SIGN JIHVAMULIYAfUPADHMANIYA"]),
   (0x11480,
     ["aTIRHUTA ANJIeLETTER AiAh IiIh UiUh VOCALIC RmRl LmLh Eh AIh Oh AUh KAiHAh GAiHAh NGA",
      "h CAiHAh JAiHAh NYAh TTAiTHAh DDAiDHAh NNAh TAiHAh DAiHAh NAh PAiHAh BAiHAh MAh YAh RA",
      "h LAh VAh SHAiSAiAh HAeVOWEL SIGN AAj IkIj UkUj VOCALIC RoRn LoLj Ej SHORT Ej AIj O",
      "j SHORT Oj AUeSIGN CANDRABINDUg ANUSVARAg VISARGAhIRAMAg NUKTAg AVAGRAHAeGVANG",
      "eABBREVIATION SIGNeOM"]),
   (0x114D0, ["aTIRHUTA DIGIT ZEROhONEhTWOhTHREEhFOURhFIVEhSIXhSEVENhEIGHThNINE"]),
   (0x11580,
     ["aSIDDHAM LETTER AiAh IiIh UiUh VOCALIC RmRl LmLh Eh AIh Oh AUh KAiHAh GAiHAh NGAh CAiHA",
      "h JAiHAh NYAh TTAiTHAh DDAiDHAh NNAh TAiHAh DAiHAh NAh PAiHAh BAiHAh MAh YAh RAh LAh VA",
      "h SHAiSAiAh HAeVOWEL SIGN AAj IkIj UkUj VOCALIC RoR"]),
   (0x115B8,
     ["aSIDDHAM VOWEL SIGN Ej AIj Oj AUeSIGN CANDRABINDUg ANUSVARAg VISARGAhIRAMAg NUKTA",
      "g SIDDHAMeDANDAeDOUBLE DANDAeSEPARATOR DOTjBAReREPETITION MARK-1m2m3eEND OF TEXT MARK",
      "eSECTION MARK WITH TRIDENT AND U-SHAPED ORNAMENTStDOTTED CRESCENTS",
      "nRAYS AND DOTTED CRESCENTSvDOUBLE CRESCENTSvTRIPLE CRESCENTSk DOUBLE RINGq WITH RAYS",
      "k WITH DOUBLE CRESCENTSnTRIPLE CRESCENTSnQUADRUPLE CRESCENTSnSEPTUPLE CRESCENTS",
      "nCIRCLES AND RAYStTWO ENCLOSUREStFOUR ENCLOSURESeLETTER THREE-CIRCLE ALTERNATE I",
      "iWO-CIRCLE ALTERNATE IsIIh ALTERNATE UeVOWEL SIGN ALTERNATE UpU"]),
   (0x11600,
     ["aMODI LETTER AgAAgIgIIgUgUUgVOCALIC RkRRkLkLLgEgAIgOgAUgKAgKHAgGAgGHAgNGAgCAgCHAgJAgJHA",
      "gNYAgTTAhHAgDDAhHAgNNAgTAgTHAgDAgDHAgNAgPAgPHAgBAgBHAgMAgYAgRAgLAgVAgSHAgSSAgSAgHAgLLA",
      "c VOWEL SIGN AAiIiIIiUiUUiVOCALIC RmRRmLmLLiEiAIiOiAUc SIGN ANUSVARAfVISARGAgRAMA",
      "fARDHACANDRAc DANDAdOUBLE DANDAc ABBREVIATION SIGNc SIGN HUVA"]),
   (0x11650, ["aMODI DIGIT ZEROf ONEf TWOgHREEf FOURgIVEf SIXgEVENf EIGHTf NINE"]),
   (0x11660,
     ["aMONGOLIAN BIRGA WITH ORNAMENTfROTATED BIRGAfDOUBLE BIRGA WITH ORNAMENT",
      "fTRIPLE BIRGA WITH ORNAMENTfBIRGA WITH DOUBLE ORNAMENTfROTATED BIRGA WITH ORNAMENT",
      "o DOUBLE ORNAMENTfINVERTED BIRGAm WITH DOUBLE ORNAMENTfSWIRL BIRGAkA WITH ORNAMENT",
      "n DOUBLE ORNAMENTfTURNED SWIRL BIRGA WITH DOUBLE ORNAMENT"]),
   (0x11680,
     ["aTAKRI LETTER AhAg IhIg UhUg Eg AIg Og AUg KAhHAg GAhHAg NGAg CAhHAg JAhHAg NYAg TTAhTHA",
      "g DDAhDHAg NNAg TAhHAg DAhHAg NAg PAhHAg BAhHAg MAg YAg RAg LAg VAg SHAhAg HAg RRA",
      "dSIGN ANUSVARAf VISARGAdVOWEL SIGN AAi IjIi UjUi Ei AIi Oi AUdSIGN VIRAMAf NUKTA",
      "dLETTER ARCHAIC KHAdABBREVIATION SIGN"]),
   (0x116C0, ["aTAKRI DIGIT ZEROgONEgTWOgTHREEgFOURgFIVEgSIXgSEVENgEIGHTgNINE"]),
   (0x11700,
     ["aAHOM LETTER KAgKHAgNGAgNAgTAgALTERNATE TAgPAgPHAgBAgMAgJAgCHAgTHAgRAgLAgSAgNYAgHAgAgDA",
      "gDHAgGAgALTERNATE GAgGHAgBHAgJHAgALTERNATE BA"]),
   (0x1171D,
     ["aAHOM CONSONANT SIGN MEDIAL LAn RAn LIGATING RAc VOWEL SIGN AiAAiIiIIiUiUUiEiAWiOiAIiAM",
      "c SIGN KILLER"]),
   (0x11730,
     ["aAHOM DIGIT ZEROf ONEf TWOgHREEf FOURgIVEf SIXgEVENf EIGHTf NINEc NUMBER TENgTWENTY",
      "c SIGN SMALL SECTIONfSECTIONfRULAIdYMBOL VIc LETTER CAgTTAhHAgDDAhHAgNNAgLLA"]),
   (0x11800,
     ["aDOGRA LETTER AhAg IhIg UhUg Eg AIg Og AUg KAhHAg GAhHAg NGAg CAhHAg JAhHAg NYAg TTAhTHA",
      "g DDAhDHAg NNAg TAhHAg DAhHAg NAg PAhHAg BAhHAg MAg YAg RAg LAg VAg SHAhSAhAg HAg RRA",
      "dVOWEL SIGN AAi IjIi UjUi VOCALIC RnRi Ei AIi Oi AUdSIGN ANUSVARAf VISARGAgIRAMAf NUKTA",
      "dABBREVIATION SIGN"]),
   (0x118A0,
     ["aWARANG CITI CAPITAL LETTER NGAAn An WIn YUoAoOn IIn UUn En On ANGn GAn KOn ENYn YUJn UC",
      "n ENNn ODDn TTEn NUNGn DAn AToMn BUn PUn HIYOoOLOoORRoARn SSUUoIIn VIYO",
      "gSMALL LETTER NGAAm Am WIm YUnAnOm IIm UUm Em Om ANGm GAm KOm ENYm YUJm UCm ENNm ODD",
      "m TTEm NUNGm DAm ATnMm BUm PUm HIYOnOLOnORRnARm SSUUnIIm VIYOgDIGIT ZEROjONEjTWOjTHREE",
      "jFOURjFIVEjSIXjSEVENjEIGHTjNINEgNUMBER TENkWENTYkHIRTYj FORTYkIFTYj SIXTYkEVENTYj EIGHTY",
      "j NINETY"]),
   (0x118FF, ["aWARANG CITI OMaDIVES AKURU LETTER AkAj IkIj UkUj E"]),
   (0x11909, ["aDIVES AKURU LETTER O"]),
   (0x1190C, ["aDIVES AKURU LETTER KAkHAj GAkHAj NGAj CAkHAj JA"]),
   (0x11915, ["aDIVES AKURU LETTER NYAj TTA"]),
   (0x11918,
     ["aDIVES AKURU LETTER DDAkDHAj NNAj TAkHAj DAkHAj NAj PAkHAj BAkHAj MAj YAkYAj RAj LAj VA",
      "j SHAkSAkAj HAj LLAj ZAgVOWEL SIGN AAl ImIl UmUl E"]),
   (0x11937, ["aDIVES AKURU VOWEL SIGN AIl O"]),
   (0x1193B,
     ["aDIVES AKURU SIGN ANUSVARAi CANDRABINDUi HALANTAgVIRAMAgPREFIXED NASAL SIGNgMEDIAL YA",
      "gINITIAL RAgMEDIAL RAgSIGN NUKTAgDOUBLE DANDAgGAP FILLERgEND OF TEXT MARK"]),
   (0x11950, ["aDIVES AKURU DIGIT ZEROjONEjTWOjTHREEjFOURjFIVEjSIXjSEVENjEIGHTjNINE"]),
   (0x119A0, ["aNANDINAGARI LETTER AkAj IkIj UkUj VOCALIC RoR"]),
   (0x119AA,
     ["aNANDINAGARI LETTER Ej AIj Oj AUj KAkHAj GAkHAj NGAj CAkHAj JAkHAj NYAj TTAkTHAj DDAkDHA",
      "j NNAj TAkHAj DAkHAj NAj PAkHAj BAkHAj MAj YAj RAj LAj VAj SHAkSAkAj HAj LLAj RRA",
      "gVOWEL SIGN AAl ImIl UmUl VOCALIC RqR"]),
   (0x119DA,
     ["aNANDINAGARI VOWEL SIGN El AIl Ol AUgSIGN ANUSVARAi VISARGAjIRAMAi AVAGRAHAi SIDDHAM",
      "gHEADSTROKEgVOWEL SIGN PRISHTHAMATRA E"]),
   (0x11A00,
     ["aZANABAZAR SQUARE LETTER Ai VOWEL SIGN IoUEoUoEoOEoOoAIoAUoREVERSED Il LENGTH MARK",
      "i LETTER KAmKHAmGAmGHAmNGAmCAmCHAmJAmNYAmTTAnHAmDDAnHAmNNAmTAmTHAmDAmDHAmNAmPAmPHAmBA",
      "mBHAmMAmTSAnHAmDZAnHAmZHAmZAm-AmYAmRAmLAmVAmSHAmSSAmSAmHAmKSSAi FINAL CONSONANT MARK",
      "i SIGN VIRAMAlCANDRABINDUqU WITH ORNAMENTo WITH ORNAMENTlANUSVARAlVISARGA",
      "i CLUSTER-INITIAL LETTER RAm-FINAL LETTER YAtRAtLAtVAi INITIAL HEAD MARK",
      "i CLOSING HEAD MARKi MARK TSHEGlSHADlDOUBLE SHADlLONG TSHEG",
      "i INITIAL DOUBLE-LINED HEAD MARKi CLOSING DOUBLE-LINED HEAD MARKi SUBJOINER"]),
   (0x11A50,
     ["aSOYOMBO LETTER AeVOWEL SIGN Ij UEkj Ej OkEj AIkUj VOCALIC Rn LhLENGTH MARKeLETTER KAiHA",
      "h GAiHAh NGAh CAiHAh JAiHAh NYAh TTAiTHAh DDAiDHAh NNAh TAiHAh DAiHAh NAh PAiHAh BAiHA",
      "h MAh TSAiSHAh DZAh ZHAiAh -Ah YAh RAh LAh VAh SHAiSAiAh HAh KSSAeSIGN JIHVAMULIYA",
      "g UPADHMANIYAeCLUSTER-INITIAL LETTER RAp LAp SHAqAeFINAL CONSONANT SIGN Go Ko NGo Do N",
      "o Bo Mo Ro Lo SHpo -AeSIGN ANUSVARAg VISARGAeGEMINATION MARKeSUBJOINEReMARK TSHEGg SHAD",
      "g DOUBLE SHADg PLUTAeHEAD MARK WITH MOON AND SUN AND TRIPLE FLAMEuFLAMErN",
      "eTERMINAL MARK-1l2"]),
   (0x11AB0,
     ["aCANADIAN SYLLABICS NATTILIK HIpIoHOpOoHApAoSHRIqIpROqOpRAqAj SPEkPIkPOkPA",
      "aPAU CIN HAU LETTER PAj KAj LAj MAj DAj ZAj VAj NGAj HAj GAj KHAj SAj BAj CAj TAkHAj NA",
      "j PHAj RAj FAj CHAj Aj Ej Ij Oj UkAj IAj FINAL Pm Km Tm Mm Nm Lm Wm NGm Y",
      "gRISING TONE LONGlEgSANDHI GLOTTAL STOPgRISING TONE LONG FINALmFINAL",
      "gSANDHI GLOTTAL STOP FINALj TONE LONGlElE LONG FINALmFINALgMID-LEVEL TONE",
      "gGLOTTAL STOP VARIANTgMID-LEVEL TONE LONG FINALn FINALgLOW-FALLING TONE LONGo",
      "gGLOTTAL STOPgLOW-FALLING TONE LONG FINALo FINALgGLOTTAL STOP FINAL"]),
   (0x11C00, ["aBHAIKSUKI LETTER AjAi IjIi UjUi VOCALIC RnRm L"]),
   (0x11C0A,
     ["aBHAIKSUKI LETTER Ei AIi Oi AUi KAjHAi GAjHAi NGAi CAjHAi JAjHAi NYAi TTAjTHAi DDAjDHA",
      "i NNAi TAjHAi DAjHAi NAi PAjHAi BAjHAi MAi YAi RAi LAi VAi SHAjSAjAi HAfVOWEL SIGN AAk I",
      "lIk UlUk VOCALIC RpRo L"]),
   (0x11C38,
     ["aBHAIKSUKI VOWEL SIGN Ek AIk Ok AUfSIGN CANDRABINDUh ANUSVARAh VISARGAiIRAMAh AVAGRAHA",
      "fDANDAfDOUBLE DANDAfWORD SEPARATORfGAP FILLER-1k-2"]),
   (0x11C50,
     ["aBHAIKSUKI DIGIT ZEROiONEiTWOiTHREEiFOURiFIVEiSIXiSEVENiEIGHTiNINEfNUMBER ONEi TWOjHREE",
      "i FOURjIVEi SIXjEVENi EIGHTi NINEi TENjWENTYjHIRTYi FORTYjIFTYi SIXTYjEVENTYi EIGHTY",
      "i NINETYfHUNDREDS UNIT MARK"]),
   (0x11C70,
     ["aMARCHEN HEAD MARKeMARK SHADeLETTER KAiHAh GAh NGAh CAiHAh JAh NYAh TAiHAh DAh NAh PAiHA",
      "h BAh MAh TSAiSHAh DZAh WAh ZHAiAh -Ah YAh RAh LAh SHAiAh HAh A"]),
   (0x11C92,
     ["aMARCHEN SUBJOINED LETTER KAnHAm GAm NGAm CAnHAm JAm NYAm TAnHAm DAm NAm PAnHAm BAm MA",
      "m TSAnSHAm DZAm WAm ZHAnA"]),
   (0x11CA9,
     ["aMARCHEN SUBJOINED LETTER YAm RAm LAm SHAnAm HAm AeVOWEL SIGN AAj Ij Uj Ej O",
      "eSIGN ANUSVARAg CANDRABINDU"]),
   (0x11D00, ["aMASARAM GONDI LETTER AlAk IlIk UlUk E"]),
   (0x11D08, ["aMASARAM GONDI LETTER AIk O"]),
   (0x11D0B,
     ["aMASARAM GONDI LETTER AUk KAlHAk GAlHAk NGAk CAlHAk JAlHAk NYAk TTAlTHAk DDAlDHAk NNA",
      "k TAlHAk DAlHAk NAk PAlHAk BAlHAk MAk YAk RAk LAk VAk SHAlSAlAk HAk LLAk KSSAk JNYAk TRA",
      "hVOWEL SIGN AAm InIm UnUm VOCALIC R"]),
   (0x11D3A, ["aMASARAM GONDI VOWEL SIGN E"]),
   (0x11D3C, ["aMASARAM GONDI VOWEL SIGN AIm O"]),
   (0x11D3F,
     ["aMASARAM GONDI VOWEL SIGN AUhSIGN ANUSVARAj VISARGAj NUKTAj CANDRAj HALANTAhVIRAMAhREPHA",
      "hRA-KARA"]),
   (0x11D50,
     ["aMASARAM GONDI DIGIT ZEROkONEkTWOkTHREEkFOURkFIVEkSIXkSEVENkEIGHTkNINE"]),
   (0x11D60, ["aGUNJALA GONDI LETTER AlAk IlIk UlU"]),
   (0x11D67, ["aGUNJALA GONDI LETTER EEk AI"]),
   (0x11D6A,
     ["aGUNJALA GONDI LETTER OOk AUk YAk VAk BAlHAk MAk KAlHAk TAlHAk LAk GAlHAk DAlHAk NAk CA",
      "lHAk TTAlTHAk LLAk JAlHAk DDAlDHAk NGAk PAlHAk HAk RAk SAhVOWEL SIGN AAm InIm UnU"]),
   (0x11D90, ["aGUNJALA GONDI VOWEL SIGN EEm AI"]),
   (0x11D93, ["aGUNJALA GONDI VOWEL SIGN OOm AUhSIGN ANUSVARAj VISARGAhVIRAMAhOM"]),
   (0x11DA0,
     ["aGUNJALA GONDI DIGIT ZEROkONEkTWOkTHREEkFOURkFIVEkSIXkSEVENkEIGHTkNINE"]),
   (0x11EE0,
     ["aMAKASAR LETTER KAh GAh NGAh PAh BAh MAh TAh DAh NAh CAh JAh NYAh YAh RAh LAh VAh SAh A",
      "eANGKAeVOWEL SIGN Ij Uj Ej OePASSIMBANGeEND OF SECTION"]),
   (0x11FB0, ["aLISU LETTER YHA"]),
   (0x11FC0,
     ["aTAMIL FRACTION ONE THREE-HUNDRED-AND-TWENTIETHj ONE-HUNDRED-AND-SIXTIETHj EIGHTIETH",
      "j SIXTY-FOURTHj FORTIETHj THIRTY-SECONDh THREE EIGHTIETHSk SIXTY-FOURTHSh ONE TWENTIETH",
      "j SIXTEENTH-1o-2j TENTHj EIGHTHh THREE TWENTIETHSk SIXTEENTHSh ONE FIFTHj QUARTER",
      "j HALF-1m2h THREE QUARTERSh DOWNSCALING FACTOR KIIZHdSIGN NELf CEVITUf AAZHAAKKU",
      "f UZHAKKUf MUUVUZHAKKUf KURUNIf PATHAKKUf MUKKURUNIf KAACUf PANAMgONf VARAAKANf PAARAM",
      "f KUZHIf VELIdWET CULTIVATION SIGNdDRY CULTIVATION SIGNdLAND SIGNdSALT PAN SIGN",
      "dTRADITIONAL CREDIT SIGNjNUMBER SIGNdCURRENT SIGNdAND ODD SIGNdSPENT SIGNdTOTAL SIGN",
      "dIN POSSESSION SIGNdSTARTING FROM SIGNdSIGN MUTHALIYAf VAKAIYARAA"]),
   (0x11FFF,
     ["aTAMIL PUNCTUATION END OF TEXTaCUNEIFORM SIGN Ai TIMES Al BADl GAN2 TENUl HAl IGI",
      "l LAGAR GUNUl MUSHl SAGi2iBiB TIMES ASH2mDUN3 GUNUmGALnN2 TENUmHAmIGI GUNUmIMINmLAGAB",
      "mSHESHmU PLUS U PLUS UjGUNUiB2j TIMES BALAGm GAN2 TENUm ME PLUS ENm SHA3m TAK4iDiK",
      "iK TIMES ERIN2mSHITA PLUS GISHiLiL TIMES ALmDIM2mGISHmHAmKAD3mKImSHEmUSHiLANiLEPHiMAR",
      "jR TIMES SHEiNiN OVER ANjTHREE TIMESjPLUS NAGA OPPOSING AN PLUS NAGAoSQUAREDiNSHEiPIN",
      "iRADjD TIMES KURiRKABiSAL2iSHj ZIDA TENUj KABA TENU",
      "j OVER ASH TUG2 OVER TUG2 TUG2 OVER TUG2 PAPoOVER ASHs CROSSING ASH OVER ASH OVER ASHj2",
      "jGABh BAiADiAG3iAHAR2iALj OVER BALjAGiARjA2iIiI TIMES AmGARmIGI GUNUiUiU OVER BU ABnUN",
      "jCROSSING BUiULUGk OVER BULUGiURj2h DAiAGj KISIM5 TIMES A PLUS MASHqAMARqBALAGqBIqGA",
      "r PLUS MASHqGIrR2qGUDqHAqIRr PLUS LUqKAKqLAqLUr PLUS MASH2rMqNEqPAP PLUS PAPqSIqTAK4",
      "qU2 PLUS GIR2qUSHiAMiARjA3jA4iIiIBiIMj TIMES SHEj2iINj KASKAL U GUNU DISHiISHiU",
      "iU OVER DUjGUNUjSHESHIGiUBj TIMES ESH2j2iUGjUDiUHiUNj3j3 GUNUm GUNUj4iUR2h Ei TIMES PAP",
      "i OVER E NUN OVER NUNi2i2 TIMES A PLUS HA PLUS DAmGARmMImSALmSHEmUiDINiGIRiLiN",
      "iN TIMES GAN2o TENUmMEjCROSSING ENjOPPOSING ENjSQUAREDiRENiRIN2iSH2iZENjN TIMES A",
      "nA PLUS LALs TIMES LALnANnBADnDUN3 GUNUrU GUNUnHAo GUNUnIGI GUNUnKASKALq SQUAREDnKU3nLA",
      "oL TIMES LALnLInLUnU2nUDh GAiA GUNUiA2j TIMES A PLUS DA PLUS HAqHAqIGInB2 TENU PLUS TAB",
      "nNnSHo2 PLUS GALm BADnAR PLUS RAnURo PLUS RAm DAnInIM TIMES SHEnUBm ELnL PLUS LAnN",
      "nN TIMES GAN2 TENUm GAN2 TENUnARnInI4o PLUS AnIR2 PLUS SUm HA PLUS LU PLUS ESH2nAL",
      "o PLUS LAnI PLUS LInUB2m IGI GUNUnSH PLUS HU PLUS ASHm KAKnASKALnIDo PLUS LALnU3 PLUS AN",
      "m LAm ME PLUS ENnIm NUNo OVER NUNm PAm SALnARnHEo PLUS TURnHIDnUMm TAK4m UnDnD PLUS DU",
      "j OVER GA2iABAjA CROSSING GABAiADj OVER GAD GAR OVER GARiALj GAD OVER GAD GAR OVER GAR",
      "jAMiAMiANj2j2 TENUkOVER GAN2kCROSSING GAN2iARj3iASHANiESHTINl TIMES KURiIiI TIMES EmU",
      "jCROSSING GIiI4j OVER GI4j CROSSING GI4iIDIMiIR2j2 GUNUj3j3 TIMES A PLUS IGInGAN2 TENU",
      "nIGInLU PLUS IGInPAiISALjHjH CROSSING GISHkTIMES BADnTAK4kTENUiUiU CROSSING GUiU2",
      "j TIMES KAKo TIMES IGI GUNUm NUNm SAL PLUS TUG2j GUNUiUDj TIMES A PLUS KURm KUR",
      "j OVER GUD LUGALiULiUMj TIMES SHEiURj7jUNjUSHh HAiA TENUjGUNUiALiIiI TIMES ASHnH2mBAD",
      "mDISHmGADmKINmNUNmSHEmUiUiUB2j2 TIMES ANnHALnKASKALnLISHnUDiUL2h Ii AiBiDIM",
      "jM OVER IDIM BURpSQUAREDiGiGIj DIBj RIj OVER IGI SHIR OVER SHIR UD OVER UDj GUNUiL",
      "iL TIMES GAN2 TENUiL2iMiM TIMES TAK4jCROSSING IMjOPPOSING IMjSQUAREDiMINiNiRiSHh KA",
      "iA TIMES AmADn PLUS KU3mASH2mBADnLAGnRmBImERIN2mESH2mGAnLnN2 TENUnRnR PLUS SHA3 PLUS A",
      "mGInR2nSH PLUS SARo CROSSING GISHmGUnR7mIGImIMmKAKmKInDmLImLUmMEn PLUS DUqGIqTEmMI",
      "n PLUS NUNUZmNEmNUNmPImRUmSAnRmSHAnEnIDnUmSIGmSUHURmTARmUmU2mUDmUMUM TIMES PAmUSHmZIiA2",
      "j CROSSING KA2iABiAD2j3j4j5j5 OVER KAD5iAKj TIMES IGI GUNUiALj TIMES BADj CROSSING KAL",
      "iAM2j4iASKALkL LAGAB TIMES U OVER LAGAB TIMES U",
      "lOVER KASKAL LAGAB TIMES U OVER LAGAB TIMES UiESH2iIiI TIMES BADmUmUDiIDiINiISALjHjIM5",
      "k5 OVER KISIM5iUiU OVER HI TIMES ASH2 KU OVER HI TIMES ASH2iU3iU4j VARIANT FORMiU7iUL",
      "j GUNUiUNiURj OPPOSING KURiUSHU2iWU318h LAiAGABk TIMES Ao PLUS DA PLUS HArGARrLALoLoN",
      "oSH ZIDA TENUn BADoIn DARn ENn GAoARoUDp PLUS GUDn HAoALoI TIMES NUNn IGI GUNUoM",
      "oM PLUS HAr LUn KIoINoU3oULp PLUS HI PLUS An LAGABoISHoUoULn MEoE PLUS ENoUSHn NE",
      "n SHE PLUS SUMoHITA PLUS GISH PLUS ERIN2v TENUoHU2p2 PLUS SHU2oUMn TAGoAK4",
      "oE PLUS A PLUS SU PLUS NAn Uo PLUS ArU PLUS Uo2 PLUS ASHoDoSHk SQUAREDjARk TIMES SHE",
      "p PLUS SUMk GUNUmU OVER LAGAR GUNU SHEiAHSHUiALj TIMES LALiAMj TIMES KURo PLUS RUiIiIL",
      "iIMMU2iISHiUiU TIMES BADiU2j TIMES ALm BADm ESH2o2 TENUm GAN2 TENUm HI TIMES BADm IM",
      "m KAD2o3o3 PLUS ASHnIm LA PLUS ASHnAGABm ME PLUS ENm NEnUm SI PLUS ASHnIK2 PLUS BUm TUG2",
      "kENUj CROSSING LU2j OPPOSING LU2j SQUAREDkHESHIGiU3iUGALk OVER LUGALlPPOSING LUGAL",
      "k SHESHIGiUHiULiUMj OVER LUMnM GAR OVER GARh MAiA TIMES TAK4jGUNUiA2iAHiARiASHjH2iEiESiI",
      "iINiUiU OVER MUiUGj GUNUiUNSUBiURGU2iUSHjH TIMES AnKURnZAkOVER MUSHoH TIMES A PLUS NA",
      "kCROSSING MUSHjH3k TIMES Ao PLUS DIn DIk GUNUh NAiA2iAGAjA INVERTEDkTIMES SHU TENU",
      "kOPPOSING NAGAjARiAM NUTILLUjj2iEiE TIMES AmUDjSHESHIGiIiI TIMES EiI2iIM",
      "j TIMES GAN2 TENUnAR PLUS GAN2 TENUiINDA2k2 TIMES ANoASHpH PLUS ASHoGUD",
      "oME PLUS GAN2 TENUoNEoNUNoSHEpE PLUS A ANtSHu PLUS ASHoU2 PLUS ASHoUSHiISAGiUiU11iUN",
      "j LAGAR TIMES GARp MASHp SALr OVER NUN LAGAR TIMES SALp USHj TENUj OVER NUN",
      "j CROSSING NUNpN LAGAR OVER LAGARjUZk AB2 TIMES ASHGABp BIp DUGp GUDp IGI GUNUp KAD3p LA",
      "p NEp SILA3p U2k KISIM5 TIMES BIs Uh PAiADiANiAPiESH2iIiI TIMES AmABmBImBUmEmImIBmUmU2",
      "jCROSSING PIiIRIGk TIMES KALn UDn ZAk OPPOSING PIRIGh RAiABiIiUh SAiAG NUTILLUjj TIMES A",
      "m DUnUBm HAm KAKnURm LUMm MIm NUNm SALnHIDm TABm U2nBnMnRnSHj OVER SAGj GUNUiAL",
      "j LAGAB TIMES ASH2iANGA2iARiHAj3j3 TIMES AnBADnGISHnNEnSHU2nTURnUnU PLUS Aj6jB6jR2iHE",
      "j HUj OVER SHE GAD OVER GAD GAR OVER GARoTAB OVER TAB GAR OVER GARjG9jNjSHk2kLAMiHID",
      "jD TIMES AnIMjMjM TIMES AnBALnBULUGnDINnGARnIGIoI GUNUnKUSHU2nLULnMUGnSALjNIGjRjR TENU",
      "kOVER SHIR BUR OVER BURjTAiHUj OVER INVERTED SHUj2jBURiIiI GUNUiIGj4j4 OVER SIG4 SHU2",
      "iIK2iILA3iUiU OVER SUiUDj2iUHURiUMjASHiURj9h TAiA ASTERISKjTIMES HImMIjGUNUiAB",
      "j OVER TAB NI OVER NI DISH OVER DISHj SQUAREDiAGj TIMES BIm GUDm SHEnHUm TUG2m UDiAK4iAR",
      "iEiE GUNUiIiI TENUiILiIRj TIMES TAK4j OVER TIRnR GAD OVER GAD GAR OVER GARiUiUG2iUKiUM",
      "iURj OVER TUR ZA OVER ZAh Ui GUDi U Ui OVER U PA OVER PA GAR OVER GARmSUR OVER SUR",
      "mU REVERSED OVER U REVERSEDi2iBiDiD KUSHU2jTIMES BADmMImU PLUS U PLUS UtU GUNUjGUNU",
      "jSHESHIGmG TIMES BADiDUGiMiM TIMES LAGABmME PLUS DAmSHA3mUiMBINiMUMjM TIMES KASKALnPAiN",
      "iN GUNUiRiR CROSSING URjSHESHIGiR2j TIMES A PLUS HAqNAnLm HAm NUNm U2n2 PLUS ASHq BIiR4",
      "iRIj3iRUj TIMES AnSHGABm BARm DUNm GAnALnAN2 TENUnARnUm HAm IGInMnSHm KIm LUMm MINm PA",
      "m SHEnIG4m TUm U PLUS GUDnDnRUDAjDAk TIMES UiSHj TIMES Am KUnURm TAK4jXj2jUMXiTUKIiZ3",
      "j TIMES KASKALiZUh ZAiA TENUjSQUARED TIMES KURiAGiAMXiE2iIiI OVER ZIiI3iIBj KABA TENUiIG",
      "iIZ2iUiU5j TIMES AiUBURiUMh KAP ELAMITEh AB TIMES NUNiB2 TIMES AiMAR TIMES KUG",
      "h DAG KISIM5 TIMES U2 PLUS MASHj3iISH PLUS SHUiUB TIMES SHEh EZEN TIMES GUDnSHE",
      "h GA2 TIMES AN PLUS KAK PLUS AnSH2iE22iIGh HUSHh KA TIMES ANSHEmASH3mGISHmGUD",
      "mHI TIMES ASH2mLUMmPAmSHULmTUmUR2h LAGAB TIMES GIiU2 SHESHIG TIMES BAD",
      "j TIMES ESH2 PLUS LALm SHUh MESHiUSH3 TIMES ZAh NA4iINj9jDA2 TIMES BALoGI",
      "iU11 ROTATED NINETY DEGREESh PESH2 ASTERISKiIR2h SAG TIMES IGI GUNUh TI2h UM TIMES MEi U"]),
   (0x12400,
     ["aCUNEIFORM NUMERIC SIGN TWO ASHmHREE ASHl FOUR ASHmIVE ASHl SIX ASHmEVEN ASHl EIGHT ASH",
      "l NINE ASHl THREE DISHl FOUR DISHmIVE DISHl SIX DISHmEVEN DISHl EIGHT DISHl NINE DISH",
      "l FOUR UmIVE Ul SIX UmEVEN Ul EIGHT Ul NINE Ul ONE GESH2l TWO GESH2mHREE GESH2",
      "l FOUR GESH2mIVE GESH2l SIX GESH2mEVEN GESH2l EIGHT GESH2l NINE GESH2l ONE GESHU",
      "l TWO GESHUmHREE GESHUl FOUR GESHUmIVE GESHUl TWO SHAR2mHREE SHAR2r VARIANT FORM",
      "l FOUR SHAR2mIVE SHAR2l SIX SHAR2mEVEN SHAR2l EIGHT SHAR2l NINE SHAR2l ONE SHARU",
      "l TWO SHARUmHREE SHARUr VARIANT FORMl FOUR SHARUmIVE SHARUl SHAR2 TIMES GAL PLUS DISH",
      "wMINl ONE BURUl TWO BURUmHREE BURUqU VARIANT FORMl FOUR BURUmIVE BURU",
      "l THREE VARIANT FORM ESH16wH21l FOUR VARIANT FORM LIMMUx4x Ax Bl SIX VARIANT FORM ASH9",
      "mEVEN VARIANT FORM IMIN3x Ax Bl EIGHT VARIANT FORM USSUx3l NINE VARIANT FORM ILIMMUxU3",
      "xU4xU Al TWO ASH TENUmHREE ASH TENUl FOUR ASH TENUmIVE ASH TENUl SIX ASH TENUl ONE BAN2",
      "l TWO BAN2mHREE BAN2l FOUR BAN2q VARIANT FORMmIVE BAN2q VARIANT FORMl NIGIDAMINoAESH",
      "l ONE ESHE3l TWO ESHE3l ONE THIRD DISHl TWO THIRDS DISHl FIVE SIXTHS DISH",
      "l ONE THIRD VARIANT FORM Al TWO THIRDS VARIANT FORM Al ONE EIGHTH ASHn QUARTER ASH",
      "mLD ASSYRIAN ONE SIXTHuQUARTERmNE QUARTER GURn HALF GURl ELAMITE ONE THIRDp TWO THIRDS",
      "p FORTYqIFTYl FOUR U VARIANT FORMmIVE U VARIANT FORMl SIX U VARIANT FORM",
      "mEVEN U VARIANT FORMl EIGHT U VARIANT FORMl NINE U VARIANT FORM"]),
   (0x12470,
     ["aCUNEIFORM PUNCTUATION SIGN OLD ASSYRIAN WORD DIVIDERn VERTICAL COLONn DIAGONAL COLON",
      "sTRICOLONsQUADCOLON"]),
   (0x12480,
     ["aCUNEIFORM SIGN AB TIMES NUN TENUmSHU2iD TIMES ESH2h BAD TIMES DISH TENUiAHAR2 TIMES AB2",
      "oNIoZAiU OVER BU TIMES NA2h DA TIMES TAK4iAG TIMES KURiIM TIMES IGIm U U Uj2 TIMES UD",
      "iUG TIMES ANSHEnSHo AT LEFTm DINnUNm ERIN2m GAnInIR2 GUNUnISHm HAnIm IGI GUNUm KASKALnUR",
      "nUSHU2p2 PLUS KASKALm LAK-020nAMo TIMES KURnUH PLUS GISHm MASHnESnIm NIm PIm SHEnI GUNU",
      "h E2 TIMES KURmPAPiRIN2 XiSH2 CROSSING ESH2iZEN SHESHIG TIMES ASHrHIrIGI GUNUrLAsLrMEsS",
      "rSUkTIMES SUh GA2 TIMES BAHAR2m DIM GUNUnUG TIMES IGI GUNUr KASKALm ERENm GAnAR PLUS DI",
      "rNEm HA PLUS Am KUSHU2 PLUS KASKALm LAMo TIMES KURnUHm MUSHm NEnE PLUS E2q GIm SHIM",
      "m ZIZ2iABA ROTATED NINETY DEGREESiESHTIN TIMES UiISH TIMES GISH CROSSING GISH",
      "iU2 TIMES IGI GUNUiUD PLUS GISH TIMES TAK4h HA TENU GUNUiI TIMES ASH OVER HI TIMES ASH",
      "h KA TIMES BUmKAmU U UmURh LAGAB TIMES ZU OVER ZUiAK-003k21k25k30k50k51k62",
      "k79 OVER LAK-079 GUNUk80k81 OVER LAK-081k92j-130k42j-210k19k20k25k28k38k65k66j-343k47k48",
      "k83k84k90j-441k49l TIMES GUo IGIo PAP PLUS LU3tPAP PLUS LU3o U2 PLUS BAk50k57k70k83k90",
      "k92k93k95j-550j-608k17l TIMES ASHo BADo DUN3 GUNU GUNUo KU3o LAo TARpEo U2pDpRUDAk36k48",
      "l TIMES DUBo GAo IGIq GUNUo NIo PAP PLUS PAP PLUS LU3o SHESH PLUS KIo UDpRUDAj-724k49",
      "iU2 GUNU TIMES ASHj TIMES DISHm HALm PAPo PLUS PAP PLUS LU3m TAK4h MI PLUS ZA7",
      "iUSH OVER MUSH TIMES GAsKAKh NINDA2 TIMES DIM GUNUoGISHoGULoHIoKESH2oLAK-050oMASH",
      "oPAP PLUS PAPoUoU PLUS UoURUDAh SAG GUNU TIMES HAj TIMES ENm SHE AT LEFTm TAK4iHA6 TENU",
      "iHE OVER SHEj PLUS HUB2mNAM2mSARiHU2 PLUS DUG TIMES NIm E2 TIMES ANiI TIMES TAK4",
      "h TAK4 PLUS SAGiUM TIMES GAN2 TENUm THREE DISHh UR2 INVERTEDj TIMES UDiRU TIMES DARA3",
      "m LAK-668nU3h ZA7iU OVER ZU PLUS SARiU5 TIMES THREE DISH TENU"]),
   (0x12F90,
     ["aCYPRO-MINOAN SIGN CM001l2l4l5l6l7l8l9k010l1l2l2Bl3l5l7l9k021l3l4l5l6l7l8l9k030l3l4l5l6",
      "l7l8l9k040l1l4l6l7l9k050l1l2l3l4l5l6l8l9k060l1l2l3l4l6l7l8l9k070l1l2l3l4l5l5Bl6l8l9k080",
      "l1l2l3l4l5l6l7l8l9k090l1l2l4l5l6l7l8l9k100l1l2l3l4l5l7l8l9k110l2l4k301l2"]),
   (0x13000,
     ["aEGYPTIAN HIEROGLYPH A001l02l03l04l05mAl06mAmBl07l08l09l10l11l12l13l14mAl15l16l17mAl18",
      "l19l20l21l22l23l24l25l26l27l28l29l30l31l32mAl33l34l35l36l37l38l39l40mAl41l42mAl43mAl44",
      "l45mAl46l47l48l49l50l51l52l53l54l55l56l57l58l59l60l61l62l63l64l65l66l67l68l69l70kB001l02",
      "l03l04l05mAl06l07l08l09kC001l02mAmBmCl03l04l05l06l07l08l09l10mAl11l12l13l14l15l16l17l18",
      "l19l20l21l22l23l24kD001l02l03l04l05l06l07l08mAl09l10l11l12l13l14l15l16l17l18l19l20l21l22",
      "l23l24l25l26l27mAl28l29l30l31mAl32l33l34mAl35l36l37l38l39l40l41l42l43l44l45l46mAl47l48mA",
      "l49l50mAmBmCmDmEmFmGmHmIl51l52mAl53l54mAl55l56l57l58l59l60l61l62l63l64l65l66l67mAmBmCmD",
      "mEmFmGmHkE001l02l03l04l05l06l07l08mAl09mAl10l11l12l13l14l15l16mAl17mAl18l19l20mAl21l22",
      "l23l24l25l26l27l28mAl29l30l31l32l33l34mAl36l37l38kF001mAl02l03l04l05l06l07l08l09l10l11",
      "l12l13mAl14l15l16l17l18l19l20l21mAl22l23l24l25l26l27l28l29l30l31mAl32l33l34l35l36l37mA",
      "l38mAl39l40l41l42l43l44l45mAl46mAl47mAl48l49l50l51mAmBmCl52l53kG001l02l03l04l05l06mAl07",
      "mAmBl08l09l10l11mAl12l13l14l15l16l17l18l19l20mAl21l22l23l24l25l26mAl27l28l29l30l31l32l33",
      "l34l35l36mAl37mAl38l39l40l41l42l43mAl44l45mAl46l47l48l49l50l51l52l53l54kH001l02l03l04l05",
      "l06mAl07l08kI001l02l03l04l05mAl06l07l08l09mAl10mAl11mAl12l13l14l15kK001l02l03l04l05l06",
      "l07l08kL001l02mAl03l04l05l06mAl07l08kM001mAmBl02l03mAl04l05l06l07l08l09l10mAl11l12mAmBmC",
      "mDmEmFmGmHl13l14l15mAl16mAl17mAl18l19l20l21l22mAl23l24mAl25l26l27l28mAl29l30l31mAl32l33",
      "mAmBl34l35l36l37l38l39l40mAl41l42l43l44kN001l02l03l04l05l06l07l08l09l10l11l12l13l14l15",
      "l16l17l18mAmBl19l20l21l22l23l24l25mAl26l27l28l29l30l31l32l33mAl34mAl35mAl36l37mAl38l39",
      "l40l41l42kNL001m2m3m4m5m5Am6m7m8m9l010m1m2m3m4m5m6m7m7Am8m9l020kNU001m2m3m4m5m6m7m8m9",
      "l010m0Am1m1Am2m3m4m5m6m7m8m8Am9l020m1m2m2AkO001mAl02l03l04l05mAl06mAmBmCmDmEmFl07l08l09",
      "l10mAmBmCl11l12l13l14l15l16l17l18l19mAl20mAl21l22l23l24mAl25mAl26l27l28l29mAl30mAl31l32",
      "l33mAl34l35l36mAmBmCmDl37l38l39l40l41l42l43l44l45l46l47l48l49l50mAmBl51kP001mAl02l03mA",
      "l04l05l06l07l08l09l10l11kQ001l02l03l04l05l06l07kR001l02mAl03mAmBl04l05l06l07l08l09l10mA",
      "l11l12l13l14l15l16mAl17l18l19l20l21l22l23l24l25l26l27l28l29kS001l02mAl03l04l05l06mAl07",
      "l08l09l10l11l12l13l14mAmBl15l16l17mAl18l19l20l21l22l23l24l25l26mAmBl27l28l29l30l31l32l33",
      "l34l35mAl36l37l38l39l40l41l42l43l44l45l46kT001l02l03mAl04l05l06l07mAl08mAl09mAl10l11mA",
      "l12l13l14l15l16mAl17l18l19l20l21l22l23l24l25l26l27l28l29l30l31l32mAl33mAl34l35l36kU001",
      "l02l03l04l05l06mAmBl07l08l09l10l11l12l13l14l15l16l17l18l19l20l21l22l23mAl24l25l26l27l28",
      "l29mAl30l31l32mAl33l34l35l36l37l38l39l40l41l42kV001mAmBmCmDmEmFmGmHmIl02mAl03l04l05l06",
      "l07mAmBl08l09l10l11mAmBmCl12mAmBl13l14l15l16l17l18l19l20mAmBmCmDmEmFmGmHmImJmKmLl21l22",
      "l23mAl24l25l26l27l28mAl29mAl30mAl31mAl32l33mAl34l35l36l37mAl38l39l40mAkW001l02l03mAl04",
      "l05l06l07l08l09mAl10mAl11l12l13l14mAl15l16l17mAl18mAl19l20l21l22l23l24mAl25kX001l02l03",
      "l04mAmBl05l06mAl07l08mAkY001mAl02l03l04l05l06l07l08kZ001l02mAmBmCmDl03mAmBl04mAl05mAl06",
      "l07l08l09l10l11l12l13l14l15mAmBmCmDmEmFmGmHmIl16mAmBmCmDmEmFmGmHkAA001m2m3m4m5m6m7m7Am7B",
      "m8m9l010m1m2m3m4m5m6m7m8m9l020m1m2m3m4m5m6m7m8m9l030m1m2"]),
   (0x13430,
     ["aEGYPTIAN HIEROGLYPH VERTICAL JOINERkHORIZONTAL JOINERkINSERT AT TOP STARTpBOTTOM START",
      "pTOP ENDpBOTTOM ENDkOVERLAY MIDDLEkBEGIN SEGMENTkEND SEGMENT"]),
   (0x14400,
     ["aANATOLIAN HIEROGLYPH A001m2m3m4m5m6m7m8m9l010m0Am1m2m3m4m5m6m7m8m9l020m1m2m3m4m5m6m6Am7",
      "m8m9l030m1m2m3m4m5m6m7m8m9m9Al040m1m1Am2m3m4m5m5Am6m6Am6Bm7m8m9l050m1m2m3m4m5m6m7m8m9",
      "l060m1m2m3m4m5m6m6Am6Bm6Cm7m8m9l070m1m2m3m4m5m6m7m8m9l080m1m2m3m4m5m6m7m8m9l090m1m2m3m4",
      "m5m6m7m7Am8m8Am9l100m0Am1m1Am2m2Am3m4m4Am4Bm4Cm5m5Am5Bm6m7m7Am7Bm7Cm8m9l110m0Am0Bm1m2m3",
      "m4m5m5Am6m7m8m9l120m1m2m3m4m5m5Am6m7m8m9l130m1m2m3m4m5m5Am6m7m8m9l140m1m2m3m4m5m6m7m8m9",
      "l150m1m2m3m4m5m6m7m8m9l160m1m2m3m4m5m6m7m8m9l170m1m2m3m4m5m6m7m8m9l180m1m2m3m4m5m6m7m8m9",
      "l190m1m2m3m4m5m6m7m8m9l200m1m2m2Am2Bm3m4m5m6m7m7Am8m9m9Al210m1m2m3m4m5m5Am6m6Am7m8m9l220",
      "m1m2m3m4m5m6m7m7Am8m9l230m1m2m3m4m5m6m7m8m9l240m1m2m3m4m5m6m7m8m9l250m1m2m3m4m5m6m7m8m9",
      "l260m1m2m3m4m5m6m7m7Am8m9l270m1m2m3m4m5m6m7m8m9l280m1m2m3m4m5m6m7m8m9m9Al290m1m2m3m4m4A",
      "m5m6m7m8m9m9Al300m1m2m3m4m5m6m7m8m9m9Al310m1m2m3m4m5m6m7m8m9l320m1m2m3m4m5m6m7m8m9m9A",
      "l330m1m2Am2Bm2Cm3m4m5m6m6Am6Bm6Cm7m8m9l340m1m2m3m4m5m6m7m8m9l350m1m2m3m4m5m6m7m8m9m9A",
      "l360m1m2m3m4m4Am5m6m7m8m8Am9l370m1m1Am2m3m4m5m6m7m8m9l380m1m1Am2m3 RA OR RIm3Am4m5m6m6A",
      "m7m8m9l390m1m2m3 EIGHTm4m5m6m7m8m9l400m1m2m3m4m5m6m7m8m9l410 BEGIN LOGOGRAM MARK",
      "m0A END LOGOGRAM MARKm1m2m3m4m5m6m7m8m9l420m1m2m3m4m5m6m7m8m9l430m1m2m3m4m5m6m7m8m9l440",
      "m1m2m3m4m5m6m7m8m9l450m0Am1m2m3m4m5m6m7m7Am8m9l460m1m2m3m4m5m6m7m8m9l470m1m2m3m4m5m6m7m8",
      "m9l480m1m2m3m4m5m6m7m8m9l490m1m2m3m4m5m6m7l501m2m3m4m5m6m7m8m9l510m1m2m3m4m5m6m7m8m9l520",
      "m1m2m3m4m5m6m7m8m9l530"]),
   (0x16800,
     ["aBAMUM LETTER PHASE-A NGKUE MFONk GBIEE FONk PON MFON PIPAEMGBIEEsBAk NAA MFON",
      "k SHUENSHUETk TITA MFONk NZA MFONk SHINDA PA NJIk PON PA NJI PIPAEMGBIEEtBAk MAEMBGBIEE",
      "k TU MAEMBAk NGANGUk MAEMVEUXlANSUAElVEUAENGAMk SEUNYAMk NTOQPENk KEUKEUTNDAk NKINDI",
      "k SUUk NGKUENZEUMk LAPAQlET KUTk NTAP MFAAk MAEKEUPk PASHAEk GHEUAERAEk PAMSHAE",
      "k MON NGGEUAETk NZUN MEUTk U YUQ NAEk GHEUAEGHEUAEk NTAP NTAAk SISAk MGBASAlEUNJOMNDEUQ",
      "lOOMPUQk KAFAk PA LEERAEWAk NDA LEERAEWAk PETk MAEMKPENk NIKAk PUPk TUAEPk LUAEPk SONJAM",
      "k TEUTEUWENk MAENYIk KETk NDAANGGEUAETk KUOQk MOOMEUTk SHUMk LOMMAEk FIRIk ROMk KPOQ",
      "k SOQk MAP PIEETk SHIRAEk NTAPk SHOQ NSHUT YUMk NYIT MONGKEUAEQk PAARAEk NKAARAE",
      "k UNKNOWNk NGGENk MAESIk NJAMk MBANYIk NYETk TEUAENk SOTk PAAMk NSHIEEk MAEMk NYIk KAQ",
      "k NSHAk VEEk LUk NENlAQk MBAQj-B NSHUETk TU MAEMGBIEEk SIEElET TUk LOM NTEUMk MBA MAELEE",
      "k KIEEMk YEURAEk MBAARAEk KAMk PEESHIk YAFU LEERAEWAk LAM NSHUT NYAMk NTIEE SHEUOQ",
      "lDU NJAAk GHEUGHEUAEMk PITk TU NSIEEk SHET NJAQmUAEQTUk MFON TEUAEQlBIT MBAAKET",
      "k NYI NTEUMk KEUPUQk GHEUGHENk KEUYEUXk LAANAEk PARUMk VEUMk NGKINDI MVOPlGGEU MBU",
      "k WUAETk SAKEUAEk TAAMk MEUQk NGGUOQnQ LARGEk MFIYAQk SUEk MBEURIlONTIEENk NYAEMAE",
      "k PUNGAAMk MEUT NGGEETk FEUXk MBUOQk FEEk KEUAEMk MA NJEUAENAnUQAk LETk NGGAAMlSENk MA",
      "k KIQk NGOMj-C NGKUE MAEMBAlZAk YUMk WANGKUOQk NGGENlDEUAEREElGKAQk GHARAEk MBEEKEET",
      "k GBAYIk NYIR MKPARAQ MEUNlTU MBITk MBEUMk PIRIEENk NDOMBUk MBAA CABBAGE-TREE",
      "k KEUSHEUAEPk GHAPk KEUKAQk YU MUOMAEk NZEUMk MBUEk NSEUAENk MBITk YEUQk KPARAQlAAk SEUX",
      "k NDIDAk TAASHAEk NJUEQk TITA YUEk SUAETk NGGUAEN NYAMk VEUXk NANSANAQk MA KEUAERIk NTAA",
      "lGGUONk LAPk MBIRIEENlGBASAQk NTEUNGBAk TEUTEUXk NGGUMk FUEk NDEUTlSAlSHAQk BUNG",
      "k VEUAEPENk MBERAEk RUk NJAEMk LAMk TITUAEPk NSUOT NGOMlJEEEEk KETk NGGUk MAESIlBUAEM",
      "k LUk KUTk NJAMlGOMk WUPk NGGUEETlSOMlTENk KUOP NKAARAEk NSUNlDAMk MA NSIEEk YAAk NDAP",
      "k SHUEQlETFONk MBIlAEMBAlBANYIk KEUSEUXk MBEUXk KEUMk MBAA PICKETk YUWOQk NJEUXk MIEE",
      "lUAEk SHIQk KEN LAWm FATIGUEk NGAQlAQk LIQk PINlENk TETj-D MBUOk WAPk NJIk MFONk NJIEE",
      "k LIEEk NJEUTlSHEElGGAAMAElYAMk WUAENk NGKUNk SHEEk NGKAPk KEUAETMEUNk TEUTk SHEUAE",
      "k NJAPk SUEk KETk YAEMMAEk KUOMk SAPk MFEUTk NDEUXk MALEERIlEUTk SEUAEQk YENk NJEUAEM",
      "k KEUOT MBUAEk NGKEURIk TUk GHAAk NGKYEEk FEUFEUAETk NDEEk MGBOFUMk LEUAEPk NDONk MONI",
      "lGBEUNk PUUTk MGBIEElFOk LUMk NSIEEPk MBAAk KWAETk NYETk TEUAENk SOTk YUWOQk KEUMk RAEM",
      "k TEEEEk NGKEUAEQk MFEUAEk NSIEETk KEUPk PIPlEUTAEk NYUEk LETk NGGAAMk MFIEEk NGGWAEN",
      "k YUOMk PAPk YUOPk NDAMlTEUMk SUAEk KUNk NGGEUXlGKIEEk TUOTk MEUNk KUQk NSUMk TEUN",
      "k MAENJETk NGGAPk LEUMk NGGUOMlSHUTlJUEQk GHEUAEk KUk REN OLDk TAElOQk NYIk RIIk LEEEE",
      "k MEEEElk SUUk MUk SHIIlHEUXk KYEEk NUk SHUk NTEEk PEEk NIk SHOQk PUQk MVOPk LOQ",
      "k REN MUCHk TIk NTUUk MBAA SEVENk SAQk FAAj-E NDAPk TOONk MBEUMk LAPk VOMk LOONk PAA",
      "k SOMk RAQk NSHUOPlDUNk PUAEk TAMk NGKAk KPEUXk WUOk SEEk NGGEUAETk PAAMk TOOk KUOPk LOM",
      "k NSHIEElGOPk MAEMk NGKEUXlGOQlSHUEk RIMGBAk NJEUXk PEEMk SAAk NGGURAEk MGBAk GHEUX",
      "k NGKEUAEMlJAEMLIk MAPk LOOTk NGGEEEElDIQk TAEN NTEUMk SETk PUMk NDAA SOFTNESS",
      "lGGUAESHAE NYAMk YIEEk GHEUNk TUAEk YEUAEk POk TUMAEk KEUAEk SUAENk TEUAEQk VEUAEk WEUX",
      "k LAAMk PUk TAAQk GHAAMAEk NGEUREUTk SHEUAEQk MGBENlBEEk NZAQlKOMk GBETk TUMk KUETk YAP",
      "k NYI CLEAVERk YITk MFEUQk NDIAQk PIEEQk YUEQk LEUAEMk FUEk GBEUXk NGKUPk KETk MAE",
      "k NGKAAMIk GHETk FAk NTUMk PEUTk YEUMk NGGEUAElYI BETWEENlZUQk POONk MIEEk FUETk NAE",
      "k MUAEk GHEUAEk FU Ik MVIk PUAQk NGKUMk KUTk PIETk NTAPk YEUAETk NGGUPk PA PEOPLE",
      "k FU CALLlOMk NJEEk Ak TOQk Ok Ik LAQk PA PLURALk TAAlAQk NDAA MY HOUSEk SHIQk YEUX",
      "k NGUAEk YUAENlOQ SWIMMINGm COVERlUQlUNk KEUXk PEUXk NJEE EPOCHk PUEk WUEk FEEk VEEk LU",
      "k MIk REUXlAEk NGUAETlGAk SHOmQk FU REMEDYk NAk PIk LOQk KOk MENlAlAQk TEUk KIk MONk TEN",
      "k FAQk GHOMj-F KAk Uk KUk EEk REEk TAEk NYIk LAk RIIlIEEk MEEEEk TAAk NDAAlJAEMk Mk SUU",
      "lHIIlIlEUXk KYEElETk NUAElUlJUAEk YOQk SHUk YAk NSHAk PEUXk NTEEk WUEk PEEk RUk NIk REUX",
      "k KENk NGKWAENlGGAk SHOk PUAEk FOMk WAk LIlOQk KOk MBENk RENk MAlOlBAAk TETk KPAk SAMBA",
      "k VUEQ"]),
   (0x16A40,
     ["aMRO LETTER TAf NGIf YOf MIMf BAf DAf Af PHIf KHAIf HAOf DAIf CHUf KEAAEf OLf MAEMf NIN",
      "f PAf OOgf ROf SHIf THEAf EAf WAf Ef KOf LANgAf HAIf RIf TEK"]),
   (0x16A60, ["aMRO DIGIT ZEROfONEfTWOfTHREEfFOURfFIVEfSIXfSEVENfEIGHTfNINE"]),
   (0x16A6E,
     ["aMRO DANDAcDOUBLE DANDAaTANGSA LETTER OZhOChOQhOXhAZhAChAQhAXhVZhVChVQhVXhEZhEChEQhEXhIZ",
      "hIChIQhIXhUZhUChUQhUXhAWZiCiQiXhUIZiCiQiXhFINAL NGhLONG UEXhSHORT UEZkAWXhUECiZiQiXhUIUZ",
      "iUCiUQiUXhMZhMChMQhMXhKAhKHAhGAhNGAhSAhYAhWAhPAhNYAhPHAhBAhMAhNAhHAhLAhHTAhTAhDAhRAhNHA",
      "hSHAhCAhTSAhGHAhHTTAhTHAhXAhFAhDHAhCHAhZA"]),
   (0x16AC0, ["aTANGSA DIGIT ZEROg ONEg TWOhHREEg FOURhIVEg SIXhEVENg EIGHTg NINE"]),
   (0x16AD0,
     ["aBASSA VAH LETTER ENNIi KAi SEi FAi MBEi YIEi GAHi DHIIi KPAHi JOi HWAHi WAi ZOi GBUi DO",
      "i CEi UWUi TOi BAi VUi YEINi PAi WADDAi Ai OjOi Ui EEji I"]),
   (0x16AF0,
     ["aBASSA VAH COMBINING HIGH TONEkLOW TONEkMID TONEkLOW-MID TONEkHIGH-LOW TONEfFULL STOP"]),
   (0x16B00,
     ["aPAHAWH HMONG VOWEL KEEBlVkIBkIVkAUBlVkUBkUVkEBkEVkAIBlVkOOBlVkAWBlVkUABlVkOBkOVkIABlV",
      "kABkAVkWBkWVkAABlVg CONSONANT VAUl NTSAUl LAUl HAUl NLAUl RAUl NKAUl QHAUl YAUl HLAU",
      "l MAUl CHAUl NCHAUl HNAUl PLHAUl NTHAUmAUl AUl XAUl CAUg MARK CIM TUBlSOlKESlKHAVlSUAM",
      "lHOMlTAUMg SIGN VOS THOMlTSHAB CEEBjCIM CHEEMjVOS THIABlFEEMjXYEEM NTXIVmRHOmTOVmFAIB",
      "jVOS SEEVjMEEJ SUABjVOS NRUAjIB YAMjXAUSjCIM TSOV ROG"]),
   (0x16B50,
     ["aPAHAWH HMONG DIGIT ZEROj ONEj TWOkHREEj FOURkIVEj SIXkEVENj EIGHTj NINE"]),
   (0x16B5B,
     ["aPAHAWH HMONG NUMBER TENSkHUNDREDSkTEN THOUSANDSkMILLIONSkHUNDRED MILLIONSkTEN BILLIONS",
      "kTRILLIONS"]),
   (0x16B63,
     ["aPAHAWH HMONG SIGN VOS LUBjXYOOjHLIjTHIRD-STAGE HLIjZWJ THAJjHNUBjNQIGjXIABjNTUJjAV",
      "jTXHEEJ CEEVjMEEJ TSEEBjTAUjLOSjMUSjCIM HAIS LUS NTOG NTOGlCUAM TSHOOJlTXWVn CHWV",
      "lPUB DAWBlNRES TOS"]),
   (0x16B7D,
     ["aPAHAWH HMONG CLAN SIGN TSHEEJl YEEGl LISmAUJl XYOOJl KOOl HAWJl MUASl THOJmSABl PHAB",
      "l KHABl HAMl VAJl FAJl YAJl TSWBl KWMl VWJ"]),
   (0x16E40,
     ["aMEDEFAIDRIN CAPITAL LETTER Mn Sn Vn Wn ATIUn Zn KPn Pn Tn Gn Fn In Kn An Jn En Bn Cn U",
      "n YUn Ln Qn HPn NYn Xn Dn OEn Nn Rn On AIn YgSMALL LETTER Mm Sm Vm Wm ATIUm Zm KPm Pm T",
      "m Gm Fm Im Km Am Jm Em Bm Cm Um YUm Lm Qm HPm NYm Xm Dm OEm Nm Rm Om AIm YgDIGIT ZERO",
      "jONEjTWOjTHREEjFOURjFIVEjSIXjSEVENjEIGHTjNINEgNUMBER TENj ELEVENj TWELVEkHIRTEEN",
      "j FOURTEENkIFTEENj SIXTEENkEVENTEENj EIGHTEENj NINETEENgDIGIT ONE ALTERNATE FORM",
      "jTWO ALTERNATE FORMjTHREE ALTERNATE FORMgCOMMAgFULL STOPgSYMBOL AIVAgEXCLAMATION OH"]),
   (0x16F00,
     ["aMIAO LETTER PAgBAgYI PAgPLAgMAgMHAgARCHAIC MAgFAgVAgVFAgTAgDAgYI TTAiAgTTAgDDAgNAgNHA",
      "gYI NNAgARCHAIC NAgNNAhHAgLAgLYAgLHAhYAgTLHAgDLHAgTLHYAgDLHYAgKAgGAgYI KAgQAgQGAgNGAhHA",
      "gARCHAIC NGAgHAgXAgGHAhHAgTSSAgDZZAgNYAhHAgTSHAgDZHAgYI TSHAh DZHAgREFORMED TSHAgSHAgSSA",
      "gZHAgZSHAgTSAgDZAgYI TSAgSAgZAgZSAgZZAhSAgARCHAIC ZZAgZZYAhSYAgWAgAHgHHAgBRIgSYIgDZYIgTE",
      "gTSEgRTE"]),
   (0x16F4F,
     ["aMIAO SIGN CONSONANT MODIFIER BARc LETTER NASALIZATIONc SIGN ASPIRATIONfREFORMED VOICING",
      "j ASPIRATIONc VOWEL SIGN AiAAiAHHiANjGiOiOOiWOiWiEiENjGiOEYiIiIAjNjNGiIOiIEiIIiIUiINGiU",
      "iUAjNjNGiUUiUEIiUNGiYiYIiAEjEiERRiROUNDED ERRiERiROUNDED ERiAIiEIiAUiOUiNiNGiUOGiYUIiOG",
      "iOERiVWiIGiEAiIONGiUI"]),
   (0x16F8F,
     ["aMIAO TONE RIGHTfTOP RIGHTfABOVEfBELOWc LETTER TONE-2i-3i-4i-5i-6i-7i-8gREFORMED TONE-1",
      "n2n4n5n6n8"]),
   (0x16FE0,
     ["aTANGUT ITERATION MARKaNUSHU ITERATION MARKaOLD CHINESE HOOK MARKgITERATION MARK",
      "aKHITAN SMALL SCRIPT FILLER"]),
   (0x16FF0, ["aVIETNAMESE ALTERNATE READING MARK CArNHAY"]),
   (0x18800,
     ["aTANGUT COMPONENT-001j02j03j04j05j06j07j08j09j10j11j12j13j14j15j16j17j18j19j20j21j22j23",
      "j24j25j26j27j28j29j30j31j32j33j34j35j36j37j38j39j40j41j42j43j44j45j46j47j48j49j50j51j52",
      "j53j54j55j56j57j58j59j60j61j62j63j64j65j66j67j68j69j70j71j72j73j74j75j76j77j78j79j80j81",
      "j82j83j84j85j86j87j88j89j90j91j92j93j94j95j96j97j98j99i-100j01j02j03j04j05j06j07j08j09",
      "j10j11j12j13j14j15j16j17j18j19j20j21j22j23j24j25j26j27j28j29j30j31j32j33j34j35j36j37j38",
      "j39j40j41j42j43j44j45j46j47j48j49j50j51j52j53j54j55j56j57j58j59j60j61j62j63j64j65j66j67",
      "j68j69j70j71j72j73j74j75j76j77j78j79j80j81j82j83j84j85j86j87j88j89j90j91j92j93j94j95j96",
      "j97j98j99i-200j01j02j03j04j05j06j07j08j09j10j11j12j13j14j15j16j17j18j19j20j21j22j23j24",
      "j25j26j27j28j29j30j31j32j33j34j35j36j37j38j39j40j41j42j43j44j45j46j47j48j49j50j51j52j53",
      "j54j55j56j57j58j59j60j61j62j63j64j65j66j67j68j69j70j71j72j73j74j75j76j77j78j79j80j81j82",
      "j83j84j85j86j87j88j89j90j91j92j93j94j95j96j97j98j99i-300j01j02j03j04j05j06j07j08j09j10",
      "j11j12j13j14j15j16j17j18j19j20j21j22j23j24j25j26j27j28j29j30j31j32j33j34j35j36j37j38j39",
      "j40j41j42j43j44j45j46j47j48j49j50j51j52j53j54j55j56j57j58j59j60j61j62j63j64j65j66j67j68",
      "j69j70j71j72j73j74j75j76j77j78j79j80j81j82j83j84j85j86j87j88j89j90j91j92j93j94j95j96j97",
      "j98j99i-400j01j02j03j04j05j06j07j08j09j10j11j12j13j14j15j16j17j18j19j20j21j22j23j24j25",
      "j26j27j28j29j30j31j32j33j34j35j36j37j38j39j40j41j42j43j44j45j46j47j48j49j50j51j52j53j54",
      "j55j56j57j58j59j60j61j62j63j64j65j66j67j68j69j70j71j72j73j74j75j76j77j78j79j80j81j82j83",
      "j84j85j86j87j88j89j90j91j92j93j94j95j96j97j98j99i-500j01j02j03j04j05j06j07j08j09j10j11",
      "j12j13j14j15j16j17j18j19j20j21j22j23j24j25j26j27j28j29j30j31j32j33j34j35j36j37j38j39j40",
      "j41j42j43j44j45j46j47j48j49j50j51j52j53j54j55j56j57j58j59j60j61j62j63j64j65j66j67j68j69",
      "j70j71j72j73j74j75j76j77j78j79j80j81j82j83j84j85j86j87j88j89j90j91j92j93j94j95j96j97j98",
      "j99i-600j01j02j03j04j05j06j07j08j09j10j11j12j13j14j15j16j17j18j19j20j21j22j23j24j25j26",
      "j27j28j29j30j31j32j33j34j35j36j37j38j39j40j41j42j43j44j45j46j47j48j49j50j51j52j53j54j55",
      "j56j57j58j59j60j61j62j63j64j65j66j67j68j69j70j71j72j73j74j75j76j77j78j79j80j81j82j83j84",
      "j85j86j87j88j89j90j91j92j93j94j95j96j97j98j99i-700j01j02j03j04j05j06j07j08j09j10j11j12",
      "j13j14j15j16j17j18j19j20j21j22j23j24j25j26j27j28j29j30j31j32j33j34j35j36j37j38j39j40j41",
      "j42j43j44j45j46j47j48j49j50j51j52j53j54j55j56j57j58j59j60j61j62j63j64j65j66j67j68"]),
   (0x1AFF0, ["aKATAKANA LETTER MINNAN TONE-2o3o4o5"]),
   (0x1AFF5, ["aKATAKANA LETTER MINNAN TONE-7o8l NASALIZED TONE-1t2t3t4t5"]),
   (0x1AFFD, ["aKATAKANA LETTER MINNAN NASALIZED TONE-7t8"]),
   (0x1B000,
     ["aKATAKANA LETTER ARCHAIC EaHIRAGANA LETTER ARCHAIC YEaHENTAIGANA LETTER A-1k2k3kWOjI-1k2",
      "k3k4jU-1k2k3k4k5jE-2k3k4k5k6jO-1k2k3jKA-1k-2k-3k-4k-5k-6k-7k-8k-9k-10l1k-KEjKI-1k-2k-3",
      "k-4k-5k-6k-7k-8jKU-1k-2k-3k-4k-5k-6k-7jKE-1k-2k-3k-4k-5k-6jKO-1k-2k-3k-KIjSA-1k-2k-3k-4",
      "k-5k-6k-7k-8jSI-1k-2k-3k-4k-5k-6jSU-1k-2k-3k-4k-5k-6k-7k-8jSE-1k-2k-3k-4k-5jSO-1k-2k-3",
      "k-4k-5k-6k-7jTA-1k-2k-3k-4jTI-1k-2k-3k-4k-5k-6k-7jTU-1k-2k-3k-4k-TOjTE-1k-2k-3k-4k-5k-6",
      "k-7k-8k-9jTO-1k-2k-3k-4k-5k-6k-RAjNA-1k-2k-3k-4k-5k-6k-7k-8k-9jNI-1k-2k-3k-4k-5k-6k-7",
      "k-TEjNU-1k-2k-3jNE-1k-2k-3k-4k-5k-6k-KOjNO-1k-2k-3k-4k-5jHA-1k-2k-3k-4k-5k-6k-7k-8k-9",
      "k-10l1jHI-1k-2k-3k-4k-5k-6k-7jHU-1k-2k-3jHE-1k-2k-3k-4k-5k-6k-7jHO-1k-2k-3k-4k-5k-6k-7",
      "k-8jMA-1k-2k-3k-4k-5k-6k-7jMI-1k-2k-3k-4k-5k-6k-7jMU-1k-2k-3k-4jME-1k-2k-MAjMO-1k-2k-3",
      "k-4k-5k-6jYA-1k-2k-3k-4k-5k-YOjYU-1k-2k-3k-4jYO-1k-2k-3k-4k-5k-6jRA-1k-2k-3k-4jRI-1k-2",
      "k-3k-4k-5k-6k-7jRU-1k-2k-3k-4k-5k-6jRE-1k-2k-3k-4jRO-1k-2k-3k-4k-5k-6jWA-1k-2k-3k-4k-5",
      "jWI-1k-2k-3k-4k-5jWE-1k-2k-3k-4jWO-1k-2k-3k-4k-5k-6k-7jN-MU-MO-1n2",
      "aHIRAGANA LETTER ARCHAIC WUaKATAKANA LETTER ARCHAIC YImYEmWU"]),
   (0x1B150, ["aHIRAGANA LETTER SMALL WIlWElWO"]),
   (0x1B164, ["aKATAKANA LETTER SMALL WIlWElWOlN"]),
   (0x1BC00,
     ["aDUPLOYAN LETTER HiXiPiTiFiKiLiBiDiViGiRiP NiD SiF NiK MiR SiTHiSLOAN DHiDHiKKiSLOAN J",
      "iHLiLHiRHiMiNiJiSiM NiN MiJ MiS JiM WITH DOTiN WITH DOTiJ WITH DOTnS INSIDE AND ABOVE",
      "iS WITH DOTn BELOWiM SiN SiJ SiS SiM N SiN M SiJ M SiS J SiJ S WITH DOTjNjN SiS TjT RjP",
      "jP RiT SjR SiWiWHiW RiS NjMiK R SiG R SiS KjK RiAiSLOAN OWiOAiOiAOUiIiEiIEiSHORT IiUIiEE",
      "iSLOAN EHiROMANIAN IiSLOAN EEiLONG IiYEiUiEUiXWiU NiLONG UiROMANIAN UiUHiSLOAN UiOOHiOW",
      "iOUiWAiWOiWIiWEIiWOWiNASAL UlOlIlAiPERNIN ANmMiSLOAN ENlANlONiVOCALIC M"]),
   (0x1BC70,
     ["aDUPLOYAN AFFIX LEFT HORIZONTAL SECANTh MID HORIZONTAL SECANTh RIGHT HORIZONTAL SECANT",
      "h LOW VERTICAL SECANTh MID VERTICAL SECANTh HIGH VERTICAL SECANTh ATTACHED SECANT",
      "mLEFT-TO-RIGHT SECANTmTANGENTnILmE HOOKmI HOOKmTANGENT HOOK"]),
   (0x1BC80,
     ["aDUPLOYAN AFFIX HIGH ACUTEkTIGHT ACUTEkGRAVEkLONG GRAVEkDOTkCIRCLEkLINEkWAVEkVERTICAL"]),
   (0x1BC90,
     ["aDUPLOYAN AFFIX LOW ACUTEj TIGHT ACUTEj GRAVEj LONG GRAVEj DOTj CIRCLEj LINEj WAVE",
      "j VERTICALj ARROW"]),
   (0x1BC9C,
     ["aDUPLOYAN SIGN O WITH CROSSe THICK LETTER SELECTORe DOUBLE MARK",
      "e PUNCTUATION CHINOOK FULL STOPaSHORTHAND FORMAT LETTER OVERLAPi CONTINUING OVERLAP",
      "i DOWN STEPi UP STEP"]),
   (0x1CF00,
     ["aZNAMENNY COMBINING MARK GORAZDO NIZKO S KRYZHEM ON LEFTmNIZKO S KRYZHEM ON LEFT",
      "mTSATA ON LEFTmGORAZDO NIZKO ON LEFTmNIZKO ON LEFTmSREDNE ON LEFTmMALO POVYSHE ON LEFT",
      "mPOVYSHE ON LEFTmVYSOKO ON LEFTmMALO POVYSHE S KHOKHLOM ON LEFT",
      "mPOVYSHE S KHOKHLOM ON LEFTmVYSOKO S KHOKHLOM ON LEFTmGORAZDO NIZKO S KRYZHEM ON RIGHT",
      "mNIZKO S KRYZHEM ON RIGHTmTSATA ON RIGHTmGORAZDO NIZKO ON RIGHTmNIZKO ON RIGHT",
      "mSREDNE ON RIGHTmMALO POVYSHE ON RIGHTmPOVYSHE ON RIGHTmVYSOKO ON RIGHT",
      "mMALO POVYSHE S KHOKHLOM ON RIGHTmPOVYSHE S KHOKHLOM ON RIGHTmVYSOKO S KHOKHLOM ON RIGHT",
      "mTSATA S KRYZHEMmMALO POVYSHE S KRYZHEMmSTRANNO MALO POVYSHEmPOVYSHE S KRYZHEMqSTRANNO",
      "mVYSOKO S KRYZHEMmMALO POVYSHE STRANNOmGORAZDO VYSOKOmZELOmONmRAVNOmTIKHAYAmBORZAYA",
      "mUDARKAmPODVERTKAmLOMKAmKUPNAYAmKACHKAmZEVOKmSKOBAmRAZSEKAmKRYZH ON LEFT"]),
   (0x1CF30,
     ["aZNAMENNY COMBINING TONAL RANGE MARK MRACHNOsSVETLOsTRESVETLOj MARK ZADERZHKA",
      "mDEMESTVENNY ZADERZHKAmOTSECHKAmPODCHASHIEr WITH VERTICAL STROKEmCHASHKApA POLNAYA",
      "mOBLACHKOmSOROCHYA NOZHKAmTOCHKAmDVOETOCHIEj ATTACHING VERTICAL OMETj MARK CURVED OMET",
      "mKRYZHj LOWER TONAL RANGE INDICATORe PRIZNAK MODIFIER LEVEL-2q3nDIRECTION FLIPnKRYZHnROG"]),
   (0x1CF50,
     ["aZNAMENNY NEUME KRYUKk TIKHYh PARAKLITh DVA V CHELNUh KLYUCHh ZANOZHEKh STOPITSA",
      "lA S OCHKOMh PEREVODKAm NEPOSTOYANNAYAh STOPITSA WITH SOROCHYA NOZHKAh CHELYUSTKAh PALKA",
      "h ZAPYATAYAh GOLUBCHIK BORZYm TIKHYm MRACHNYm SVETLYm TRESVETLYh VRAKHIYA PROSTAYA",
      "mMRACHNAYAmSVETLAYAmTRESVETLAYAmKLYUCHEVAYA PROSTAYAsMRACHNAYAsSVETLAYAsTRESVETLAYA",
      "h DOUBLE ZAPYATAYAh REVERSED CHELYUSTKAh DERBITSAh KHAMILOh CHASHKAh PODCHASHIE",
      "h SKAMEYTSA MRACHNAYAm SVETLAYAm TRESVETLAYAnIKHAYAh DEMESTVENNY KLYUCH",
      "h SKAMEYTSA KLYUCHEVAYA SVETLAYAqNEPOSTOYANNAYAqVAYA TIKHAYAm DVOECHELNAYA PROSTAYA",
      "tSVETLAYAtNEPOSTOYANNAYAtKLYUCHEVAYAiLOZHITIEm S ZAPYATOYm ZAKRYTOEm S KRYZHEMh KRYZH",
      "h ROGh FITAh KOBYLAh ZMEYTSAh STATYAkA S ZAPYATOYmKRYZHEMmZAPYATOY I KRYZHEM",
      "mKRYZHEM I ZAPYATOYlZAKRYTAYApA S ZAPYATOYlS ROGOMmDVUMYA ZAPYATYMI",
      "mZAPYATOY I PODCHASHIEMh POLKULIZMYh STATYA NEPOSTOYANNAYAiTRELA PROSTAYAlMRACHNOTIKHAYA",
      "lKRYZHEVAYAlPOLUPOVODNAYAmVODNAYAlNEPOSTOYANNAYAlKLYUCHEPOVODNAYAoENEPOSTOYANNAYA",
      "lTIKHAYA PUTNAYAlDVOECHELNAYApNOKRYZHEVAYAqPOVODNAYApNAYA KLYUCHEVAYA",
      "pNOPOVODNAYA KLYUCHEVAYAlGROMNAYA WITH SINGLE ZAPYATAYAnOPOVODNAYA WITH SINGLE ZAPYATAYA",
      "nNAYAnOPOVODNAYAs WITH DOUBLE ZAPYATAYAnOKRYZHEVAYAsA POVODNAYAh MECHIKkK POVODNY",
      "lKLYUCHEVOYoEPOVODNYoENEPOSTOYANNYh STRELA TRYASOGLASNAYAoPOVODNAYAoSTRELNAYAh OSOKA",
      "k SVETLAYAk TRESVETLAYAk KRYUKOVAYA SVETLAYAlLYUCHEVAYA SVETLAYAq NEPOSTOYANNAYA",
      "h STRELA KRYUKOVAYAq POVODNAYAq GROMNAYA WITH SINGLE ZAPYATAYA",
      "sMOPOVODNAYA WITH SINGLE ZAPYATAYAsMNAYAsMOPOVODNAYAxA WITH DOUBLE ZAPYATAYAtKRYZHEVAYA",
      "y POVODNAYAq TRYASKAh KUFISMAh OBLAKOh DUDAh NEMKAh PAUK"])]

end TreeQuote.CharacterName

/-
TreeQuote/Text/CharacterName/Syllabic.lean

The names of syllabaries, and the extensions of the Latin and Greek alphabets, in runs of code points with
names.  How a run is written is said where runs are read.
-/

namespace TreeQuote.CharacterName

/-- Runs of names of syllabaries, and the extensions of the Latin and Greek alphabets. -/
def syllabic : List (Nat × List String) :=
  [(0x1400,
     ["aCANADIAN SYLLABICS HYPHENj Ej AAIj IkIj OkOj Y-CREE OOj CARRIER EEn Ij AkAj WE",
      "kEST-CREE WEkIkEST-CREE WIkIIkEST-CREE WIIkOkEST-CREE WOkOOkEST-CREE WOOj NASKAPI WOO",
      "j WAkEST-CREE WAkAAkEST-CREE WAAj NASKAPI WAAj AIj Y-CREE Wj GLOTTAL STOPj FINAL ACUTE",
      "m GRAVEm BOTTOM HALF RINGm TOP HALF RINGm RIGHT HALF RINGnINGm DOUBLE ACUTE",
      "qSHORT VERTICAL STROKESm MIDDLE DOTm SHORT HORIZONTAL STROKEm PLUSm DOWN TACKj ENj IN",
      "j ONj ANj PEkAAIkIkIIkOkOOj Y-CREE POOj CARRIER HEEoIj PAkAAkWEj WEST-CREE PWEj PWI",
      "j WEST-CREE PWIj PWIIj WEST-CREE PWIIj PWOj WEST-CREE PWOj PWOOj WEST-CREE PWOOj PWA",
      "j WEST-CREE PWAj PWAAj WEST-CREE PWAAj Y-CREE PWAAj Pj WEST-CREE Pj CARRIER Hj TEkAAIkI",
      "kIIkOkOOj Y-CREE TOOj CARRIER DEEoIj TAkAAkWEj WEST-CREE TWEj TWIj WEST-CREE TWIj TWII",
      "j WEST-CREE TWIIj TWOj WEST-CREE TWOj TWOOj WEST-CREE TWOOj TWAj WEST-CREE TWAj TWAA",
      "j WEST-CREE TWAAj NASKAPI TWAAj TkTEkTIkTOkTAj KEkAAIkIkIIkOkOOj Y-CREE KOOj KAkAAkWE",
      "j WEST-CREE KWEj KWIj WEST-CREE KWIj KWIIj WEST-CREE KWIIj KWOj WEST-CREE KWOj KWOO",
      "j WEST-CREE KWOOj KWAj WEST-CREE KWAj KWAAj WEST-CREE KWAAj NASKAPI KWAAj KkW",
      "j SOUTH-SLAVEY KEHqKIHqKOHqKAHj CEkAAIkIkIIkOkOOj Y-CREE COOj CAkAAkWEj WEST-CREE CWE",
      "j CWIj WEST-CREE CWIj CWIIj WEST-CREE CWIIj CWOj WEST-CREE CWOj CWOOj WEST-CREE CWOO",
      "j CWAj WEST-CREE CWAj CWAAj WEST-CREE CWAAj NASKAPI CWAAj Cj SAYISI THj MEkAAIkIkIIkOkOO",
      "j Y-CREE MOOj MAkAAkWEj WEST-CREE MWEj MWIj WEST-CREE MWIj MWIIj WEST-CREE MWIIj MWO",
      "j WEST-CREE MWOj MWOOj WEST-CREE MWOOj MWAj WEST-CREE MWAj MWAAj WEST-CREE MWAA",
      "j NASKAPI MWAAj Mj WEST-CREE Mj MHj ATHAPASCAN Mj SAYISI Mj NEkAAIkIkIIkOkOOj Y-CREE NOO",
      "j NAkAAkWEj WEST-CREE NWEj NWAj WEST-CREE NWAj NWAAj WEST-CREE NWAAj NASKAPI NWAAk",
      "j CARRIER NGj NHj LEkAAIkIkIIkOkOOj Y-CREE LOOj LAkAAkWEj WEST-CREE LWEj LWI",
      "j WEST-CREE LWIj LWIIj WEST-CREE LWIIj LWOj WEST-CREE LWOj LWOOj WEST-CREE LWOOj LWA",
      "j WEST-CREE LWAj LWAAj WEST-CREE LWAAj Lj WEST-CREE Lj MEDIAL Lj SEkAAIkIkIIkOkOO",
      "j Y-CREE SOOj SAkAAkWEj WEST-CREE SWEj SWIj WEST-CREE SWIj SWIIj WEST-CREE SWIIj SWO",
      "j WEST-CREE SWOj SWOOj WEST-CREE SWOOj SWAj WEST-CREE SWAj SWAAj WEST-CREE SWAA",
      "j NASKAPI SWAAj Sj ATHAPASCAN Sj SWj BLACKFOOT Sj MOOSE-CREE SKj NASKAPI SKWo-WoPWAoTWA",
      "oKWAoCWAj SHEkHIlIkHOlOkHAlAkHWEj WEST-CREE SHWEj SHWIj WEST-CREE SHWIj SHWII",
      "j WEST-CREE SHWIIj SHWOj WEST-CREE SHWOj SHWOOj WEST-CREE SHWOOj SHWAj WEST-CREE SHWA",
      "j SHWAAj WEST-CREE SHWAAj SHj YEkAAIkIkIIkOkOOk-CREE YOOkAkAAkWEj WEST-CREE YWEj YWI",
      "j WEST-CREE YWIj YWIIj WEST-CREE YWIIj YWOj WEST-CREE YWOj YWOOj WEST-CREE YWOOj YWA",
      "j WEST-CREE YWAj YWAAj WEST-CREE YWAAj NASKAPI YWAAj Yj BIBLE-CREE Yj WEST-CREE Y",
      "j SAYISI YIj REk-CREE REj WEST-CREE LEj RAAIkIkIIkOkOOj WEST-CREE LOj RAkAA",
      "j WEST-CREE LAj RWAAj WEST-CREE RWAAj Rj WEST-CREE Rj MEDIAL Rj FEkAAIkIkIIkOkOOkAkAA",
      "kWAAj WEST-CREE FWAAj Fj THEj N-CREE THEj THIj N-CREE THIj THIIj N-CREE THIIj THOlOkHAlA",
      "kHWAAj WEST-CREE THWAAj THkTHElIlOlAlkYEkYIkYOkYAj NUNAVIK HEoIoIIoOoOOoAoAAomUT Hj HK",
      "j QAAIkIkIIkOkOOkAkAAkj TLHElIlOlAj WEST-CREE REpIpOpAj NGAAIkGIlIkGOlOkGAlAkGkNG",
      "j SAYISI SHEoIoOoAj WOODS-CREE THEqIqOqAqj LHIlIkHOlOkHAlAkHj TH-CREE THEoHIpIoHOpOoHApA",
      "oHj AIVILIK Bj BLACKFOOT Eo Io Oo Ao WEpIpOpAo NEpIpOpAo KEpIpOpAj SAYISI HEnHInHOnHA",
      "j CARRIER GHUoHOoHEpEoHIoHAn RUoOoEoEEoIoAn WUoOoEoEEoIoAn HWUoWOoWEpEoWIoWAn THUoHOoHE",
      "pEoHIoHAoTUoTOoTEpEoTIoTAn PUoOoEoEEoIoAon GUoOoEoEEoIoAn KHUoHOoHEpEoHIoHAoKUoKOoKEpE",
      "oKIoKAoKn NUoOoEoEEoIoAn MUoOoEoEEoIoAn YUoOoEoEEoIoAn JUj SAYISI JUj CARRIER JOoEoEEoI",
      "j SAYISI JIj CARRIER JAoJUoJOoJEpEoJIoJAn LUoOoEoEEoIoAn DLUoLOoLEpEoLIoLAn LHUoHOoHEpE",
      "oHIoHAn TLHUpOpEpEEpIpAoLUoLOoLEpEoLIoLAn ZUoOoEoEEoIoAon INITIAL Zn DZUoZOoZEpEoZIoZA",
      "n SUoOoEoEEoIoAoHUoHOoHEpEoHIoHAoHn TSUoSOoSEpEoSIoSAn CHUoHOoHEpEoHIoHAn TTSUpOpEpEEpI",
      "pAkHI SIGNj FULL STOPj QAIj NGAIkNGIlIIlOlOOlAlAAj WOODS-CREE THWEEqWIrIqWOrOqWArA",
      "pFINAL THj BLACKFOOT WaOGHAM SPACE MARKdLETTER BEITHg LUISg FEARNg SAILg NIONg UATH",
      "g DAIRg TINNEg COLLhEIRTg MUINg GORTg NGEADALg STRAIFg RUISg AILMg ONNg URg EADHADH",
      "g IODHADHg EABHADHg ORg UILLEANNg IFINg EAMHANCHOLLg PEITHdFEATHER MARK",
      "dREVERSED FEATHER MARK"]),
   (0x16A0,
     ["aRUNIC LETTER FEHU FEOH FE Fg Vg URUZ UR Ug YRhg Wg THURISAZ THURS THORNg ETHg ANSUZ A",
      "g OS Og AC AhESCg LONG-BRANCH-OSS Og SHORT-TWIG-OSS Og OhEhNg RAIDO RAD REID Rg KAUNA",
      "g CENg KAUN Kg Gg ENGg GEBO GYFU GhARg WUNJO WYNN Wg HAGLAZ HhAEGL H",
      "g LONG-BRANCH-HAGALL Hg SHORT-TWIG-HAGALL Hg NAUDIZ NYD NAUD Ng SHORT-TWIG-NAUD N",
      "g DOTTED-Ng ISAZ IS ISS Ig Eg JERAN Jg GERg LONG-BRANCH-AR AEg SHORT-TWIG-AR Ag IWAZ EOH",
      "g PERTHO PEORTH Pg ALGIZ EOLHXg SOWILO ShIGEL LONG-BRANCH-SOL ShHORT-TWIG-SOL Sg Cg Z",
      "g TIWAZ TIR TYR Tg SHORT-TWIG-TYR Tg Dg BERKANAN BEORC BJARKAN Bg SHORT-TWIG-BJARKAN B",
      "g DOTTED-Pg OPEN-Pg EHWAZ EH Eg MANNAZ MAN Mg LONG-BRANCH-MADR Mg SHORT-TWIG-MADR M",
      "g LAUKAZ LAGU LOGR Lg DOTTED-Lg INGWAZig DAGAZ DAEG Dg OTHALAN ETHEL Og EARg IOR",
      "g CWEORTHhALChEALCg STANg LONG-BRANCH-YRg SHORT-TWIG-YRg ICELANDIC-YRg Qg X",
      "dSINGLE PUNCTUATIONdMULTIPLE PUNCTUATIONdCROSS PUNCTUATIONdARLAUG SYMBOLdTVIMADUR SYMBOL",
      "dBELGTHOR SYMBOLdLETTER Kg SHg OOg FRANKS CASKET OSn ISn EHn ACoESC"]),
   (0x1700,
     ["aTAGALOG LETTER Ah Ih Uh KAh GAh NGAh TAh DAh NAh PAh BAh MAh YAh RAh LAh WAh SAh HA",
      "eVOWEL SIGN Ij UeSIGN VIRAMAg PAMUDPOD"]),
   (0x171F,
     ["aTAGALOG LETTER ARCHAIC RAaHANUNOO LETTER Ah Ih Uh KAh GAh NGAh TAh DAh NAh PAh BAh MA",
      "h YAh RAh LAh WAh SAh HAeVOWEL SIGN Ij UeSIGN PAMUDPODaPHILIPPINE SINGLE PUNCTUATION",
      "f DOUBLE PUNCTUATION"]),
   (0x1740,
     ["aBUHID LETTER Ag Ig Ug KAg GAg NGAg TAg DAg NAg PAg BAg MAg YAg RAg LAg WAg SAg HA",
      "dVOWEL SIGN Ii U"]),
   (0x1760, ["aTAGBANWA LETTER AiIiUiKAiGAiNGAiTAiDAiNAiPAiBAiMAiYA"]),
   (0x176E, ["aTAGBANWA LETTER LAiWAiSA"]),
   (0x1772, ["aTAGBANWA VOWEL SIGN IkU"]),
   (0x1780,
     ["aKHMER LETTER KAhHAhOhHOg NGOg CAhHAhOhHOg NYOg DAg TTHAg DOg TTHOg NNOg TAhHAhOhHOg NO",
      "g BAg PHAhOhHOg MOg YOg ROg LOg VOg SHAhSOhAg HAg LAg QAdINDEPENDENT VOWEL QAQnAmQInImQU",
      "nKnUnUVmRYnYmLYnYmQEmQAImQOO TYPE ONEq TWOmQAUdVOWEL INHERENT AQlAgSIGN AAi IjIi YjYi U",
      "jUjAi OEi YAi IEi Ei AEjIi OOi AUdSIGN NIKAHITf REAHMUKf YUUKALEAPINTUf MUUSIKATOAN",
      "f TRIISAPf BANTOCf ROBATf TOANDAKHIATf KAKABATf AHSDAf SAMYOK SANNYAf VIRIAMf COENG",
      "f BATHAMASATf KHANf BARIYOOSANf CAMNUC PII KUUHf LEK TOOf BEYYALf PHNAEK MUANf KOOMUUT",
      "dCURRENCY SYMBOL RIELdSIGN AVAKRAHASANYAgTTHACAN"]),
   (0x17E0, ["aKHMER DIGIT ZEROgONEgTWOgTHREEgFOURgFIVEgSIXgSEVENgEIGHTgNINE"]),
   (0x17F0,
     ["aKHMER SYMBOL LEK ATTAK SONl MUOYl PIIl BEImUONl PRAMnM-MUOYoPIIoBEIoBUON"]),
   (0x1800,
     ["aMONGOLIAN BIRGAfELLIPSISfCOMMAfFULL STOPfCOLONfFOUR DOTSfTODO SOFT HYPHEN",
      "fSIBE SYLLABLE BOUNDARY MARKERfMANCHU COMMAi FULL STOPfNIRUGU",
      "fFREE VARIATION SELECTOR ONErTWOrTHREEfVOWEL SEPARATORfFREE VARIATION SELECTOR FOUR",
      "fDIGIT ZEROiONEiTWOiTHREEiFOURiFIVEiSIXiSEVENiEIGHTiNINE"]),
   (0x1820,
     ["aMONGOLIAN LETTER Ai Ei Ii Oi Ui OEi UEi EEi NAi ANGi BAi PAi QAi GAi MAi LAi SAjHAi TA",
      "i DAi CHAi JAi YAi RAi WAi FAi KAjHAi TSAi ZAi HAAi ZRAi LHAi ZHIi CHI",
      "i TODO LONG VOWEL SIGNlElIlOlUlOElUElANGlBAlPAlQAlGAlMAlTAlDAlCHAlJAlTSAlYAlWAlKAlGAA",
      "lHAAlJIAlNIAlDZAi SIBE ElIlIYlUElUlANGlKAlGAlHAlPAlSHAlTAlDAlJAlFAlGAAlHAAlTSAlZAlRAA",
      "lCHAlZHAi MANCHU ImKAmRAmFAmZHAi CHA WITH TWO DOTS"]),
   (0x1880,
     ["aMONGOLIAN LETTER ALI GALI ANUSVARA ONEnVISARGA ONEnDAMARUnUBADAMAnINVERTED UBADAMA",
      "nBALUDAnTHREE BALUDAnAnInKAnNGAnCAnTTAoHAnDDAnNNAnTAnDAnPAnPHAnSSAnZHAnZAnAH",
      "i TODO ALI GALI TAp ZHAi MANCHU ALI GALI GHAq NGAq CAq JHAq TTAq DDHAq TAq DHAq SSAq CYA",
      "q ZHArAi ALI GALI HALF Up YAi MANCHU ALI GALI BHAi ALI GALI DAGALGAi MANCHU ALI GALI LHA"]),
   (0x18B0,
     ["aCANADIAN SYLLABICS OYj AYkAYj WAYj POYkAYkWOYj TAYj KAYkWAYj MAYj NOYkAYj LAYj SOYkAY",
      "kHOYkHAYkHWOYj YOYkAYj RAYj NWIj OJIBWAY NWIj NWIIj OJIBWAY NWIIj NWOj OJIBWAY NWOj NWOO",
      "j OJIBWAY NWOOj RWEEkWIlIkWOlOkWAj OJIBWAY Pn Tn Kn Cn Mn Nn SoHj EASTERN Wj WESTERN W",
      "j FINAL SMALL RINGm RAISED DOTj R-CREE RWEj WEST-CREE LOOpAAj THWElAkTHWElOOlAAkLHWElOO",
      "j SAYISI SHWEoOOnHOOj CARRIER GWUn DENE GEEn GAAoWAj SAYISI JUUj CARRIER JWA",
      "j BEAVER DENE Lp Rj CARRIER DENTAL S"]),
   (0x1900,
     ["aLIMBU VOWEL-CARRIER LETTERdLETTER KAhHAg GAhHAg NGAg CAhHAg JAhHAg YANg TAhHAg DAhHA",
      "g NAg PAhHAg BAhHAg MAg YAg RAg LAg WAg SHAhSAhAg HAg GYANg TRA"]),
   (0x1920,
     ["aLIMBU VOWEL SIGN Ai Ii Ui EEi AIi OOi AUi Ei OdSUBJOINED LETTER YAl RAl WA"]),
   (0x1930,
     ["aLIMBU SMALL LETTER KAj NGAj ANUSVARAj TAj NAj PAj MAj RAj LAdSIGN MUKPHRENGf KEMPHRENG",
      "f SA-I"]),
   (0x1940, ["aLIMBU SIGN LOO"]),
   (0x1944,
     ["aLIMBU EXCLAMATION MARKdQUESTION MARKdDIGIT ZEROgONEgTWOgTHREEgFOURgFIVEgSIXgSEVENgEIGHT",
      "gNINEaTAI LE LETTER KAhXAhNGAhTSAhSAhYAhTAhTHAhLAhPAhPHAhMAhFAhVAhHAhQAhKHAhTSHAhNAhAhI",
      "hEEhEHhUhOOhOhUEhEhAUEhAI"]),
   (0x1970, ["aTAI LE LETTER TONE-2j-3j-4j-5j-6"]),
   (0x1980,
     ["aNEW TAI LUE LETTER HIGH QAj LOW QAj HIGH KAmXAmNGAj LOW KAl XAl NGAj HIGH TSAmSAmYA",
      "j LOW TSAl SAl YAj HIGH TAmTHAmNAj LOW TAmHAl NAj HIGH PAmPHAmMAj LOW PAmHAl MAj HIGH FA",
      "mVAmLAj LOW FAl VAl LAj HIGH HAmDAmBAj LOW HAl DAl BAj HIGH KVAmXVAj LOW KVAl XVA",
      "j HIGH SUAj LOW SUA"]),
   (0x19B0,
     ["aNEW TAI LUE VOWEL SIGN VOWEL SHORTENERl AAl IIl UmUl El AEl OmAl UEl AYmAYl UYl OYmAY",
      "l UEYl IYgLETTER FINAL Vm NGnm Mm Km Dm BgTONE MARK-1l2"]),
   (0x19D0,
     ["aNEW TAI LUE DIGIT ZEROjONEjTWOjTHREEjFOURjFIVEjSIXjSEVENjEIGHTjNINEgTHAM DIGIT ONE"]),
   (0x19DE,
     ["aNEW TAI LUE SIGN LAEkVaKHMER SYMBOL PATHAMASATg MUOY KOETg PII KOETg BEI KOEThUON KOET",
      "g PRAM KOETiM-MUOY KOETjPII KOETjBEI KOETjBUON KOETg DAP KOETi-MUOY KOETi-PII KOET",
      "i-BEI KOETjUON KOETi-PRAM KOETg TUTEYASATg MUOY ROCg PII ROCg BEI ROChUON ROCg PRAM ROC",
      "iM-MUOY ROCjPII ROCjBEI ROCjBUON ROCg DAP ROCi-MUOY ROCi-PII ROCi-BEI ROCjUON ROC",
      "i-PRAM ROCaBUGINESE LETTER KAiGAiNGAjKAiPAiBAiMAiMPAiTAiDAiNAiNRAiCAiJAiNYAjCAiYAiRAiLA",
      "iVAiSAiAiHAe VOWEL SIGN IkUkEkOkAE"]),
   (0x1A1E,
     ["aBUGINESE PALLAWAe END OF SECTIONaTAI THAM LETTER HIGH KAlHAlXAiLOW KAkKXAkKHAiNGA",
      "iHIGH CAlHAiLOW CAkSAkCHAiNYAiRATAiHIGH RATHAiDAiLOW RATHAiRANAiHIGH TAlHAiLOW TAkTHAiNA",
      "iBAiHIGH PAlHAk FAiLOW PAkFAkPHAiMAiLOW YAiHIGH YAiRAiRUEiLAiLUEiWAiHIGH SHAlSAlAk HA",
      "iLLAiAiLOW HAiIiIIiUiUUiEEiOOiLAEiGREAT SAe CONSONANT SIGN MEDIAL RAp LAmLA TANG LAI",
      "e SIGN MAI KANG LAIe CONSONANT SIGN FINAL NGAmLOW PAmHIGH RATHA OR LOW PAmMAmBAmSA"]),
   (0x1A60,
     ["aTAI THAM SIGN SAKOTe VOWEL SIGN AkMAI SATkAAkTALL AAkIkIIkUEkUUEkUkUUkOkOA BELOWkOYkE",
      "kAEkOOkAIkTHAM AIkOA ABOVEe SIGN MAI KANGhTONE-1j-2hKHUEN TONE-3m-4m-5hRA HAAMhMAI SAM",
      "hKHUEN-LUE KARAN"]),
   (0x1A7F,
     ["aTAI THAM COMBINING CRYPTOGRAMMIC DOTe HORA DIGIT ZEROkONEkTWOkTHREEkFOURkFIVEkSIXkSEVEN",
      "kEIGHTkNINE"]),
   (0x1A90,
     ["aTAI THAM THAM DIGIT ZEROkONEkTWOkTHREEkFOURkFIVEkSIXkSEVENkEIGHTkNINE"]),
   (0x1AA0,
     ["aTAI THAM SIGN WIANGjGWAAKhSAWANhKEOWhHOYhDOKMAIhREVERSED ROTATED RANAhMAI YAMOKhKAAN",
      "jKUUhSATKAANkNKUUhHANGhCAANG"]),
   (0x1AB0,
     ["aCOMBINING DOUBLED CIRCUMFLEX ACCENTfDIAERESIS-RINGfINFINITYfDOWNWARDS ARROWfTRIPLE DOT",
      "fX-X BELOWfWIGGLY LINE BELOWfOPEN MARK BELOWfDOUBLE OPEN MARK BELOW",
      "fLIGHT CENTRALIZATION STROKE BELOWfSTRONG CENTRALIZATION STROKE BELOWfPARENTHESES ABOVE",
      "fDOUBLE PARENTHESES ABOVEfPARENTHESES BELOWlOVERLAYfLATIN SMALL LETTER W BELOW",
      "o TURNED W BELOWfLEFT PARENTHESIS ABOVE LEFTfRIGHT PARENTHESIS ABOVE RIGHT",
      "fLEFT PARENTHESIS BELOW LEFTfRIGHT PARENTHESIS BELOW RIGHTfSQUARE BRACKETS ABOVE",
      "fNUMBER SIGN ABOVEfINVERTED DOUBLE ARCH ABOVEfPLUS SIGN ABOVEfDOUBLE PLUS SIGN ABOVE",
      "n BELOWfTRIPLE ACUTE ACCENTfLATIN SMALL LETTER INSULAR Gs Rs T"]),
   (0x1B00,
     ["aBALINESE SIGN ULU RICEMjCANDRAhCECEKhSURANGhBISAHe LETTER AKARAkA TEDUNGiIKARAkA TEDUNG",
      "iUKARAkA TEDUNGiRA REPAlA TEDUNGiLA LENGAm TEDUNGiEKARAiAIKARAiOKARAkA TEDUNGiKA",
      "j MAHAPRANAiGAj GORAiNGAiCAj LACAiJAj JERAiNYAiTA LATIKj MURDA MAHAPRANA",
      "iDA MURDA ALPAPRANAm MAHAPRANAiNA RAMBATiTAj TAWAiDAj MADUiNAiPAj KAPALiBAj KEMBANGiMA",
      "iYAiRAiLAiWAiSA SAGAkAPAjiHAe SIGN REREKANe VOWEL SIGN TEDUNGkULUlU SARIkSUKUm ILUT",
      "kRA REPAnA TEDUNGkLA LENGAo TEDUNGkTALINGn REPAn TEDUNGn REPA TEDUNGkPEPETmT TEDUNG",
      "e ADEG ADEGe LETTER KAF SASAKiKHOT SASAKiTZIR SASAKiEF SASAKiVE SASAKiZAL SASAK",
      "iASYURA SASAKiARCHAIC JNYA"]),
   (0x1B50,
     ["aBALINESE DIGIT ZEROh ONEh TWOiHREEh FOURiIVEh SIXiEVENh EIGHTh NINEe PANTIfAMADAe WINDU",
      "e CARIK PAMUNGKAHh SIKIh PARERENe PAMENENGe MUSICAL SYMBOL DONGmDENGmDUNGmDANGo SURANG",
      "mDINGmDAENGmDEUNGmDAINGnNG GEDEmCOMBINING TEGEHrENDEPrKEMPULtLIrJEGOGAN",
      "rKEMPUL WITH JEGOGANtLI WITH JEGOGANrBENDErGONGmRIGHT-HAND OPEN DUGuDAGr CLOSED TUKvTAK",
      "mLEFT-HAND OPEN PANGuUNGrCLOSED PLAKvLUKrOPEN PINGe PANTI LANTANGfAMADA LANTANG"]),
   (0x1B80,
     ["aSUNDANESE SIGN PANYECEKjGLAYARjGWISADfLETTER Ai Ii Ui AEi Oi EjUi KAi QAi GAi NGAi CA",
      "i JAi ZAi NYAi TAi DAi NAi PAi FAi VAi BAi MAi YAi RAi LAi WAi SAi XAi HA",
      "fCONSONANT SIGN PAMINGKALnANYAKRAoYIKUfVOWEL SIGN PANGHULUmYUKUmAELAENGmOLONGlAMEPET",
      "lANEULEUNGfSIGN PAMAAEHh VIRAMAfCONSONANT SIGN PASANGAN MArWAfLETTER KHAi SYAfDIGIT ZERO",
      "iONEiTWOiTHREEiFOURiFIVEiSIXiSEVENiEIGHTiNINEfAVAGRAHAfLETTER REUi LEUi BHAi FINAL Kl M",
      "aBATAK LETTER Ag SIMALUNGUN Ag HAg SIMALUNGUN HAg MANDAILING HAg BAg KARO BAg PA",
      "g SIMALUNGUN PAg NAg MANDAILING NAg WAg SIMALUNGUN WAg PAKPAK WAg GAg SIMALUNGUN GAg JA",
      "g DAg RAg SIMALUNGUN RAg MAg SIMALUNGUN MAhOUTHERN TAg NORTHERN TAg SAhIMALUNGUN SA",
      "g MANDAILING SAg YAg SIMALUNGUN YAg NGAg LAg SIMALUNGUN LAg NYAg CAg NDAg MBAg Ig U",
      "dSIGN TOMPIdVOWEL SIGN Ei PAKPAK Ei EEi Ii KARO Ii Oi KARO Oi Uj FOR SIMALUNGUN SA",
      "dCONSONANT SIGN NGk HdPANGOLATeNONGONAN"]),
   (0x1BFC,
     ["aBATAK SYMBOL BINDU NA METEKj PINARBORASj JUDULj PANGOLATaLEPCHA LETTER KAhKLAhKHAhGA",
      "hGLAhNGAhCAhCHAhJAhNYAhTAhTHAhDAhNAhPAhPLAhPHAhFAhFLAhBAhBLAhMAhMLAhTSAiHAhDZAhYAhRAhLA",
      "hHAhHLAhVAhSAhSHAhWAhAd SUBJOINED LETTER YAmRAd VOWEL SIGN AAjIjOjOOjUjUUjE",
      "d CONSONANT SIGN KlMlLlNlPlRlTlNYIN-DOlKANGd SIGN RANgNUKTA"]),
   (0x1C3B,
     ["aLEPCHA PUNCTUATION TA-ROLj NYET THYOOM TA-ROLj CER-WAj TSHOOK CER-WAmKd DIGIT ZEROg ONE",
      "g TWOhHREEg FOURhIVEg SIXhEVENg EIGHTg NINE"]),
   (0x1C4D,
     ["aLEPCHA LETTER TTAiHAhDDAaOL CHIKI DIGIT ZEROh ONEh TWOiHREEh FOURiIVEh SIXiEVENh EIGHT",
      "h NINEe LETTER LAiATiAGiANGiALiLAAiAAKjJjMjWiLIiISiIHiINYiIRiLUiUCiUDiUNNiUYiLEiEPiEDD",
      "iENiERRiLOiOTTiOBiOViOHe MU TTUDDAGe GAAHLAA TTUDDAAGe MU-GAAHLAA TTUDDAAGe RELAA",
      "e PHAARKAAe AHADe PUNCTUATION MUCAADk DOUBLE MUCAADaCYRILLIC SMALL LETTER ROUNDED VE",
      "lLONG-LEGGED DElNARROW OlWIDE ESlTALL TElTHREE-LEGGED TElTALL HARD SIGNn YAT",
      "lUNBLENDED UK"]),
   (0x1C90,
     ["aGEORGIAN MTAVRULI CAPITAL LETTER ANq BANq GANq DONq ENq VINq ZENq TANq INq KANq LAS",
      "q MANq NARq ONq PARq ZHARq RAEq SANq TARq UNq PHARq KHARq GHANq QARq SHINq CHINrANq JIL",
      "q CILrHARq XANq JHANq HAErErIEq WEq HARrOEq FIq YNq ELIFIq TURNED GANq AIN"]),
   (0x1CBD,
     ["aGEORGIAN MTAVRULI CAPITAL LETTER AENq HARD SIGNq LABIAL SIGN",
      "aSUNDANESE PUNCTUATION BINDU SURYAoPANGLONGoPURNAMAoCAKRAoLEU SATANGAoKA SATANGA",
      "oDA SATANGAoBA SATANGA"]),
   (0x1CD0,
     ["aVEDIC TONE KARSHANAf SHARAf PRENKHAdSIGN NIHSHVASAf YAJURVEDIC MIDLINE SVARITA",
      "dTONE YAJURVEDIC AGGRAVATED INDEPENDENT SVARITAlINDEPENDENT SVARITA",
      "lKATHAKA INDEPENDENT SVARITAf CANDRA BELOW",
      "f YAJURVEDIC KATHAKA INDEPENDENT SVARITA SCHROEDERf DOUBLE SVARITAf TRIPLE SVARITA",
      "f KATHAKA ANUDATTAf DOT BELOWf TWO DOTS BELOWgHREE DOTS BELOW",
      "f RIGVEDIC KASHMIRI INDEPENDENT SVARITAf ATHARVAVEDIC INDEPENDENT SVARITA",
      "dSIGN VISARGA SVARITAj UDATTAf REVERSED VISARGA UDATTAf VISARGA ANUDATTA",
      "f REVERSED VISARGA ANUDATTAf VISARGA UDATTA WITH TAILj ANUDATTA WITH TAIL",
      "f ANUSVARA ANTARGOMUKHAkBAHIRGOMUKHAkVAMAGOMUKHApA WITH TAILf TIRYAK",
      "f HEXIFORM LONG ANUSVARAf LONG ANUSVARAf RTHANG LONG ANUSVARAf ANUSVARA UBHAYATO MUKHA",
      "gRDHAVISARGAf ROTATED ARDHAVISARGAdTONE CANDRA ABOVEdSIGN JIHVAMULIYAf UPADHMANIYA",
      "f ATIKRAMAdTONE RING ABOVEf DOUBLE RING ABOVEdSIGN DOUBLE ANUSVARA ANTARGOMUKHA"]),
   (0x1D00,
     ["aLATIN LETTER SMALL CAPITAL AoEdSMALL LETTER TURNED AEdLETTER SMALL CAPITAL BARRED Bn C",
      "n Dn ETHodSMALL LETTER TURNED OPEN EnIdLETTER SMALL CAPITAL Jn Kn L WITH STROKEn M",
      "n REVERSED Nn OoPEN OdSMALL LETTER SIDEWAYS OoOPEN OoO WITH STROKEj TURNED OE",
      "dLETTER SMALL CAPITAL OUdSMALL LETTER TOP HALF Oj BOTTOM HALF OdLETTER SMALL CAPITAL P",
      "n REVERSED Rn TURNED Ron UdSMALL LETTER SIDEWAYS UoDIAERESIZED UoTURNED M",
      "dLETTER SMALL CAPITAL Vn Wn Zn EZHg VOICED LARYNGEAL SPIRANTg AIN",
      "aGREEK LETTER SMALL CAPITAL GAMMAn LAMDAn PIn RHOn PSIaCYRILLIC LETTER SMALL CAPITAL EL",
      "aMODIFIER LETTER CAPITAL AmAEmBmBARRED BmDmEmREVERSED EmGmHmImJmKmLmMmNmREVERSED NmOmOU",
      "mPmRmTmUmWiSMALL AlTURNED AlALPHAlTURNED AElBlDlElSCHWAlOPEN ElTURNED OPEN ElGlTURNED I",
      "lKlMlENGlOlOPEN OlTOP HALF OlBOTTOM HALF OlPlTlUlSIDEWAYS UlTURNED MlVlAINlBETA",
      "lGREEK GAMMAlDELTAlGREEK PHIlCHIaLATIN SUBSCRIPT SMALL LETTER Io Ro Uo V",
      "aGREEK SUBSCRIPT SMALL LETTER BETAo GAMMAo RHOo PHIo CHIaLATIN SMALL LETTER UE",
      "j B WITH MIDDLE TILDEj D WITH MIDDLE TILDEj F WITH MIDDLE TILDEj M WITH MIDDLE TILDE",
      "j N WITH MIDDLE TILDEj P WITH MIDDLE TILDEj R WITH MIDDLE TILDE",
      "nFISHHOOK AND MIDDLE TILDEj S WITH MIDDLE TILDEj T WITH MIDDLE TILDE",
      "j Z WITH MIDDLE TILDEj TURNED GaMODIFIER LETTER CYRILLIC ENaLATIN SMALL LETTER INSULAR G",
      "j TH WITH STRIKETHROUGHgCAPITAL LETTER I WITH STROKEgLETTER IOTA WITH STROKE",
      "j P WITH STROKEgCAPITAL LETTER U WITH STROKEgLETTER UPSILON WITH STROKE",
      "j B WITH PALATAL HOOKj D WITH PALATAL HOOKj F WITH PALATAL HOOKj G WITH PALATAL HOOK",
      "j K WITH PALATAL HOOKj L WITH PALATAL HOOKj M WITH PALATAL HOOKj N WITH PALATAL HOOK",
      "j P WITH PALATAL HOOKj R WITH PALATAL HOOKj S WITH PALATAL HOOKj ESH WITH PALATAL HOOK",
      "j V WITH PALATAL HOOKj X WITH PALATAL HOOKj Z WITH PALATAL HOOKj A WITH RETROFLEX HOOK",
      "kLPHA WITH RETROFLEX HOOKj D WITH HOOK AND TAILj E WITH RETROFLEX HOOK",
      "j OPEN E WITH RETROFLEX HOOKj REVERSED OPEN E WITH RETROFLEX HOOK",
      "j SCHWA WITH RETROFLEX HOOKj I WITH RETROFLEX HOOKj OPEN O WITH RETROFLEX HOOK",
      "j ESH WITH RETROFLEX HOOKj U WITH RETROFLEX HOOKj EZH WITH RETROFLEX HOOK",
      "aMODIFIER LETTER SMALL TURNED ALPHAlClC WITH CURLlETHlREVERSED OPEN ElF",
      "lDOTLESS J WITH STROKElSCRIPT GlTURNED HlI WITH STROKElIOTAlCAPITAL IpI WITH STROKE",
      "lJ WITH CROSSED-TAILlL WITH RETROFLEX HOOKo PALATAL HOOKlCAPITAL LlM WITH HOOK",
      "lTURNED M WITH LONG LEGlN WITH LEFT HOOKo RETROFLEX HOOKlCAPITAL NlBARRED OlPHI",
      "lS WITH HOOKlESHlT WITH PALATAL HOOKlU BARlUPSILONlCAPITAL UlV WITH HOOKlTURNED VlZ",
      "lZ WITH RETROFLEX HOOKo CURLlEZHlTHETAaCOMBINING DOTTED GRAVE ACCENTi ACUTE ACCENT",
      "fSNAKE BELOWfSUSPENSION MARKfMACRON-ACUTEfGRAVE-MACRONfMACRON-GRAVEfACUTE-MACRON",
      "fGRAVE-ACUTE-GRAVEfACUTE-GRAVE-ACUTEfLATIN SMALL LETTER R BELOWfBREVE-MACRON",
      "fMACRON-BREVEfDOUBLE CIRCUMFLEX ABOVEfOGONEK ABOVEfZIGZAG BELOWfIS BELOWfUR ABOVE",
      "fUS ABOVEfLATIN SMALL LETTER FLATTENED OPEN A ABOVEo AEpOpVo C CEDILLAo INSULAR Do ETH",
      "o GiLETTER SMALL CAPITAL GiSMALL LETTER Ko LiLETTER SMALL CAPITAL Ls MiSMALL LETTER N",
      "iLETTER SMALL CAPITAL Ns RiSMALL LETTER R ROTUNDAo So LONG So Zo ALPHAo BpETAo SCHWAo F",
      "o L WITH DOUBLE MIDDLE TILDEo O WITH LIGHT CENTRALIZATION STROKEo Po ESH",
      "o U WITH LIGHT CENTRALIZATION STROKEo Wo A WITH DIAERESISo O WITH DIAERESIS",
      "o U WITH DIAERESISfUP TACK ABOVEfKAVYKA ABOVE RIGHTl LEFTfDOT ABOVE LEFT",
      "fWIDE INVERTED BRIDGE BELOWfDOT BELOW LEFTfDELETION MARKfDOUBLE INVERTED BREVE BELOW",
      "fALMOST EQUAL TO BELOWfLEFT ARROWHEAD ABOVEfRIGHT ARROWHEAD AND DOWN ARROWHEAD BELOW",
      "aLATIN CAPITAL LETTER A WITH RING BELOWdSMALL LETTER A WITH RING BELOW",
      "dCAPITAL LETTER B WITH DOT ABOVEdSMALL LETTER B WITH DOT ABOVE",
      "dCAPITAL LETTER B WITH DOT BELOWdSMALL LETTER B WITH DOT BELOW",
      "dCAPITAL LETTER B WITH LINE BELOWdSMALL LETTER B WITH LINE BELOW",
      "dCAPITAL LETTER C WITH CEDILLA AND ACUTEdSMALL LETTER C WITH CEDILLA AND ACUTE",
      "dCAPITAL LETTER D WITH DOT ABOVEdSMALL LETTER D WITH DOT ABOVE",
      "dCAPITAL LETTER D WITH DOT BELOWdSMALL LETTER D WITH DOT BELOW",
      "dCAPITAL LETTER D WITH LINE BELOWdSMALL LETTER D WITH LINE BELOW",
      "dCAPITAL LETTER D WITH CEDILLAdSMALL LETTER D WITH CEDILLA",
      "dCAPITAL LETTER D WITH CIRCUMFLEX BELOWdSMALL LETTER D WITH CIRCUMFLEX BELOW",
      "dCAPITAL LETTER E WITH MACRON AND GRAVEdSMALL LETTER E WITH MACRON AND GRAVE",
      "dCAPITAL LETTER E WITH MACRON AND ACUTEdSMALL LETTER E WITH MACRON AND ACUTE",
      "dCAPITAL LETTER E WITH CIRCUMFLEX BELOWdSMALL LETTER E WITH CIRCUMFLEX BELOW",
      "dCAPITAL LETTER E WITH TILDE BELOWdSMALL LETTER E WITH TILDE BELOW",
      "dCAPITAL LETTER E WITH CEDILLA AND BREVEdSMALL LETTER E WITH CEDILLA AND BREVE",
      "dCAPITAL LETTER F WITH DOT ABOVEdSMALL LETTER F WITH DOT ABOVE",
      "dCAPITAL LETTER G WITH MACRONdSMALL LETTER G WITH MACRONdCAPITAL LETTER H WITH DOT ABOVE",
      "dSMALL LETTER H WITH DOT ABOVEdCAPITAL LETTER H WITH DOT BELOW",
      "dSMALL LETTER H WITH DOT BELOWdCAPITAL LETTER H WITH DIAERESIS",
      "dSMALL LETTER H WITH DIAERESISdCAPITAL LETTER H WITH CEDILLAdSMALL LETTER H WITH CEDILLA",
      "dCAPITAL LETTER H WITH BREVE BELOWdSMALL LETTER H WITH BREVE BELOW",
      "dCAPITAL LETTER I WITH TILDE BELOWdSMALL LETTER I WITH TILDE BELOW",
      "dCAPITAL LETTER I WITH DIAERESIS AND ACUTEdSMALL LETTER I WITH DIAERESIS AND ACUTE",
      "dCAPITAL LETTER K WITH ACUTEdSMALL LETTER K WITH ACUTEdCAPITAL LETTER K WITH DOT BELOW",
      "dSMALL LETTER K WITH DOT BELOWdCAPITAL LETTER K WITH LINE BELOW",
      "dSMALL LETTER K WITH LINE BELOWdCAPITAL LETTER L WITH DOT BELOW",
      "dSMALL LETTER L WITH DOT BELOWdCAPITAL LETTER L WITH DOT BELOW AND MACRON",
      "dSMALL LETTER L WITH DOT BELOW AND MACRONdCAPITAL LETTER L WITH LINE BELOW",
      "dSMALL LETTER L WITH LINE BELOWdCAPITAL LETTER L WITH CIRCUMFLEX BELOW",
      "dSMALL LETTER L WITH CIRCUMFLEX BELOWdCAPITAL LETTER M WITH ACUTE",
      "dSMALL LETTER M WITH ACUTEdCAPITAL LETTER M WITH DOT ABOVEdSMALL LETTER M WITH DOT ABOVE",
      "dCAPITAL LETTER M WITH DOT BELOWdSMALL LETTER M WITH DOT BELOW",
      "dCAPITAL LETTER N WITH DOT ABOVEdSMALL LETTER N WITH DOT ABOVE",
      "dCAPITAL LETTER N WITH DOT BELOWdSMALL LETTER N WITH DOT BELOW",
      "dCAPITAL LETTER N WITH LINE BELOWdSMALL LETTER N WITH LINE BELOW",
      "dCAPITAL LETTER N WITH CIRCUMFLEX BELOWdSMALL LETTER N WITH CIRCUMFLEX BELOW",
      "dCAPITAL LETTER O WITH TILDE AND ACUTEdSMALL LETTER O WITH TILDE AND ACUTE",
      "dCAPITAL LETTER O WITH TILDE AND DIAERESISdSMALL LETTER O WITH TILDE AND DIAERESIS",
      "dCAPITAL LETTER O WITH MACRON AND GRAVEdSMALL LETTER O WITH MACRON AND GRAVE",
      "dCAPITAL LETTER O WITH MACRON AND ACUTEdSMALL LETTER O WITH MACRON AND ACUTE",
      "dCAPITAL LETTER P WITH ACUTEdSMALL LETTER P WITH ACUTEdCAPITAL LETTER P WITH DOT ABOVE",
      "dSMALL LETTER P WITH DOT ABOVEdCAPITAL LETTER R WITH DOT ABOVE",
      "dSMALL LETTER R WITH DOT ABOVEdCAPITAL LETTER R WITH DOT BELOW",
      "dSMALL LETTER R WITH DOT BELOWdCAPITAL LETTER R WITH DOT BELOW AND MACRON",
      "dSMALL LETTER R WITH DOT BELOW AND MACRONdCAPITAL LETTER R WITH LINE BELOW",
      "dSMALL LETTER R WITH LINE BELOWdCAPITAL LETTER S WITH DOT ABOVE",
      "dSMALL LETTER S WITH DOT ABOVEdCAPITAL LETTER S WITH DOT BELOW",
      "dSMALL LETTER S WITH DOT BELOWdCAPITAL LETTER S WITH ACUTE AND DOT ABOVE",
      "dSMALL LETTER S WITH ACUTE AND DOT ABOVEdCAPITAL LETTER S WITH CARON AND DOT ABOVE",
      "dSMALL LETTER S WITH CARON AND DOT ABOVEdCAPITAL LETTER S WITH DOT BELOW AND DOT ABOVE",
      "dSMALL LETTER S WITH DOT BELOW AND DOT ABOVEdCAPITAL LETTER T WITH DOT ABOVE",
      "dSMALL LETTER T WITH DOT ABOVEdCAPITAL LETTER T WITH DOT BELOW",
      "dSMALL LETTER T WITH DOT BELOWdCAPITAL LETTER T WITH LINE BELOW",
      "dSMALL LETTER T WITH LINE BELOWdCAPITAL LETTER T WITH CIRCUMFLEX BELOW",
      "dSMALL LETTER T WITH CIRCUMFLEX BELOWdCAPITAL LETTER U WITH DIAERESIS BELOW",
      "dSMALL LETTER U WITH DIAERESIS BELOWdCAPITAL LETTER U WITH TILDE BELOW",
      "dSMALL LETTER U WITH TILDE BELOWdCAPITAL LETTER U WITH CIRCUMFLEX BELOW",
      "dSMALL LETTER U WITH CIRCUMFLEX BELOWdCAPITAL LETTER U WITH TILDE AND ACUTE",
      "dSMALL LETTER U WITH TILDE AND ACUTEdCAPITAL LETTER U WITH MACRON AND DIAERESIS",
      "dSMALL LETTER U WITH MACRON AND DIAERESISdCAPITAL LETTER V WITH TILDE",
      "dSMALL LETTER V WITH TILDEdCAPITAL LETTER V WITH DOT BELOWdSMALL LETTER V WITH DOT BELOW",
      "dCAPITAL LETTER W WITH GRAVEdSMALL LETTER W WITH GRAVEdCAPITAL LETTER W WITH ACUTE",
      "dSMALL LETTER W WITH ACUTEdCAPITAL LETTER W WITH DIAERESISdSMALL LETTER W WITH DIAERESIS",
      "dCAPITAL LETTER W WITH DOT ABOVEdSMALL LETTER W WITH DOT ABOVE",
      "dCAPITAL LETTER W WITH DOT BELOWdSMALL LETTER W WITH DOT BELOW",
      "dCAPITAL LETTER X WITH DOT ABOVEdSMALL LETTER X WITH DOT ABOVE",
      "dCAPITAL LETTER X WITH DIAERESISdSMALL LETTER X WITH DIAERESIS",
      "dCAPITAL LETTER Y WITH DOT ABOVEdSMALL LETTER Y WITH DOT ABOVE",
      "dCAPITAL LETTER Z WITH CIRCUMFLEXdSMALL LETTER Z WITH CIRCUMFLEX",
      "dCAPITAL LETTER Z WITH DOT BELOWdSMALL LETTER Z WITH DOT BELOW",
      "dCAPITAL LETTER Z WITH LINE BELOWdSMALL LETTER Z WITH LINE BELOWj H WITH LINE BELOW",
      "j T WITH DIAERESISj W WITH RING ABOVEj Y WITH RING ABOVEj A WITH RIGHT HALF RING",
      "j LONG S WITH DOT ABOVEqIAGONAL STROKEp HIGH STROKEdCAPITAL LETTER SHARP S",
      "dSMALL LETTER DELTAdCAPITAL LETTER A WITH DOT BELOWdSMALL LETTER A WITH DOT BELOW",
      "dCAPITAL LETTER A WITH HOOK ABOVEdSMALL LETTER A WITH HOOK ABOVE",
      "dCAPITAL LETTER A WITH CIRCUMFLEX AND ACUTEdSMALL LETTER A WITH CIRCUMFLEX AND ACUTE",
      "dCAPITAL LETTER A WITH CIRCUMFLEX AND GRAVEdSMALL LETTER A WITH CIRCUMFLEX AND GRAVE",
      "dCAPITAL LETTER A WITH CIRCUMFLEX AND HOOK ABOVE",
      "dSMALL LETTER A WITH CIRCUMFLEX AND HOOK ABOVE",
      "dCAPITAL LETTER A WITH CIRCUMFLEX AND TILDEdSMALL LETTER A WITH CIRCUMFLEX AND TILDE",
      "dCAPITAL LETTER A WITH CIRCUMFLEX AND DOT BELOW",
      "dSMALL LETTER A WITH CIRCUMFLEX AND DOT BELOWdCAPITAL LETTER A WITH BREVE AND ACUTE",
      "dSMALL LETTER A WITH BREVE AND ACUTEdCAPITAL LETTER A WITH BREVE AND GRAVE",
      "dSMALL LETTER A WITH BREVE AND GRAVEdCAPITAL LETTER A WITH BREVE AND HOOK ABOVE",
      "dSMALL LETTER A WITH BREVE AND HOOK ABOVEdCAPITAL LETTER A WITH BREVE AND TILDE",
      "dSMALL LETTER A WITH BREVE AND TILDEdCAPITAL LETTER A WITH BREVE AND DOT BELOW",
      "dSMALL LETTER A WITH BREVE AND DOT BELOWdCAPITAL LETTER E WITH DOT BELOW",
      "dSMALL LETTER E WITH DOT BELOWdCAPITAL LETTER E WITH HOOK ABOVE",
      "dSMALL LETTER E WITH HOOK ABOVEdCAPITAL LETTER E WITH TILDEdSMALL LETTER E WITH TILDE",
      "dCAPITAL LETTER E WITH CIRCUMFLEX AND ACUTEdSMALL LETTER E WITH CIRCUMFLEX AND ACUTE",
      "dCAPITAL LETTER E WITH CIRCUMFLEX AND GRAVEdSMALL LETTER E WITH CIRCUMFLEX AND GRAVE",
      "dCAPITAL LETTER E WITH CIRCUMFLEX AND HOOK ABOVE",
      "dSMALL LETTER E WITH CIRCUMFLEX AND HOOK ABOVE",
      "dCAPITAL LETTER E WITH CIRCUMFLEX AND TILDEdSMALL LETTER E WITH CIRCUMFLEX AND TILDE",
      "dCAPITAL LETTER E WITH CIRCUMFLEX AND DOT BELOW",
      "dSMALL LETTER E WITH CIRCUMFLEX AND DOT BELOWdCAPITAL LETTER I WITH HOOK ABOVE",
      "dSMALL LETTER I WITH HOOK ABOVEdCAPITAL LETTER I WITH DOT BELOW",
      "dSMALL LETTER I WITH DOT BELOWdCAPITAL LETTER O WITH DOT BELOW",
      "dSMALL LETTER O WITH DOT BELOWdCAPITAL LETTER O WITH HOOK ABOVE",
      "dSMALL LETTER O WITH HOOK ABOVEdCAPITAL LETTER O WITH CIRCUMFLEX AND ACUTE",
      "dSMALL LETTER O WITH CIRCUMFLEX AND ACUTEdCAPITAL LETTER O WITH CIRCUMFLEX AND GRAVE",
      "dSMALL LETTER O WITH CIRCUMFLEX AND GRAVE",
      "dCAPITAL LETTER O WITH CIRCUMFLEX AND HOOK ABOVE",
      "dSMALL LETTER O WITH CIRCUMFLEX AND HOOK ABOVE",
      "dCAPITAL LETTER O WITH CIRCUMFLEX AND TILDEdSMALL LETTER O WITH CIRCUMFLEX AND TILDE",
      "dCAPITAL LETTER O WITH CIRCUMFLEX AND DOT BELOW",
      "dSMALL LETTER O WITH CIRCUMFLEX AND DOT BELOWdCAPITAL LETTER O WITH HORN AND ACUTE",
      "dSMALL LETTER O WITH HORN AND ACUTEdCAPITAL LETTER O WITH HORN AND GRAVE",
      "dSMALL LETTER O WITH HORN AND GRAVEdCAPITAL LETTER O WITH HORN AND HOOK ABOVE",
      "dSMALL LETTER O WITH HORN AND HOOK ABOVEdCAPITAL LETTER O WITH HORN AND TILDE",
      "dSMALL LETTER O WITH HORN AND TILDEdCAPITAL LETTER O WITH HORN AND DOT BELOW",
      "dSMALL LETTER O WITH HORN AND DOT BELOWdCAPITAL LETTER U WITH DOT BELOW",
      "dSMALL LETTER U WITH DOT BELOWdCAPITAL LETTER U WITH HOOK ABOVE",
      "dSMALL LETTER U WITH HOOK ABOVEdCAPITAL LETTER U WITH HORN AND ACUTE",
      "dSMALL LETTER U WITH HORN AND ACUTEdCAPITAL LETTER U WITH HORN AND GRAVE",
      "dSMALL LETTER U WITH HORN AND GRAVEdCAPITAL LETTER U WITH HORN AND HOOK ABOVE",
      "dSMALL LETTER U WITH HORN AND HOOK ABOVEdCAPITAL LETTER U WITH HORN AND TILDE",
      "dSMALL LETTER U WITH HORN AND TILDEdCAPITAL LETTER U WITH HORN AND DOT BELOW",
      "dSMALL LETTER U WITH HORN AND DOT BELOWdCAPITAL LETTER Y WITH GRAVE",
      "dSMALL LETTER Y WITH GRAVEdCAPITAL LETTER Y WITH DOT BELOWdSMALL LETTER Y WITH DOT BELOW",
      "dCAPITAL LETTER Y WITH HOOK ABOVEdSMALL LETTER Y WITH HOOK ABOVE",
      "dCAPITAL LETTER Y WITH TILDEdSMALL LETTER Y WITH TILDEdCAPITAL LETTER MIDDLE-WELSH LL",
      "dSMALL LETTER MIDDLE-WELSH LLdCAPITAL LETTER MIDDLE-WELSH VdSMALL LETTER MIDDLE-WELSH V",
      "dCAPITAL LETTER Y WITH LOOPdSMALL LETTER Y WITH LOOPaGREEK SMALL LETTER ALPHA WITH PSILI",
      "pDASIApPSILI AND VARIApDASIA AND VARIApPSILI AND OXIApDASIA AND OXIA",
      "pPSILI AND PERISPOMENIpDASIA AND PERISPOMENIdCAPITAL LETTER ALPHA WITH PSILIqDASIA",
      "qPSILI AND VARIAqDASIA AND VARIAqPSILI AND OXIAqDASIA AND OXIAqPSILI AND PERISPOMENI",
      "qDASIA AND PERISPOMENIdSMALL LETTER EPSILON WITH PSILIqDASIAqPSILI AND VARIA",
      "qDASIA AND VARIAqPSILI AND OXIAqDASIA AND OXIA"]),
   (0x1F18,
     ["aGREEK CAPITAL LETTER EPSILON WITH PSILIrDASIArPSILI AND VARIArDASIA AND VARIA",
      "rPSILI AND OXIArDASIA AND OXIA"]),
   (0x1F20,
     ["aGREEK SMALL LETTER ETA WITH PSILIoDASIAoPSILI AND VARIAoDASIA AND VARIAoPSILI AND OXIA",
      "oDASIA AND OXIAoPSILI AND PERISPOMENIoDASIA AND PERISPOMENI",
      "dCAPITAL LETTER ETA WITH PSILIpDASIApPSILI AND VARIApDASIA AND VARIApPSILI AND OXIA",
      "pDASIA AND OXIApPSILI AND PERISPOMENIpDASIA AND PERISPOMENIdSMALL LETTER IOTA WITH PSILI",
      "o DASIAo PSILI AND VARIAo DASIA AND VARIAo PSILI AND OXIAo DASIA AND OXIA",
      "o PSILI AND PERISPOMENIo DASIA AND PERISPOMENIdCAPITAL LETTER IOTA WITH PSILIp DASIA",
      "p PSILI AND VARIAp DASIA AND VARIAp PSILI AND OXIAp DASIA AND OXIA",
      "p PSILI AND PERISPOMENIp DASIA AND PERISPOMENIdSMALL LETTER OMICRON WITH PSILIqDASIA",
      "qPSILI AND VARIAqDASIA AND VARIAqPSILI AND OXIAqDASIA AND OXIA"]),
   (0x1F48,
     ["aGREEK CAPITAL LETTER OMICRON WITH PSILIrDASIArPSILI AND VARIArDASIA AND VARIA",
      "rPSILI AND OXIArDASIA AND OXIA"]),
   (0x1F50,
     ["aGREEK SMALL LETTER UPSILON WITH PSILIqDASIAqPSILI AND VARIAqDASIA AND VARIA",
      "qPSILI AND OXIAqDASIA AND OXIAqPSILI AND PERISPOMENIqDASIA AND PERISPOMENI"]),
   (0x1F59, ["aGREEK CAPITAL LETTER UPSILON WITH DASIA"]),
   (0x1F5B, ["aGREEK CAPITAL LETTER UPSILON WITH DASIA AND VARIA"]),
   (0x1F5D, ["aGREEK CAPITAL LETTER UPSILON WITH DASIA AND OXIA"]),
   (0x1F5F,
     ["aGREEK CAPITAL LETTER UPSILON WITH DASIA AND PERISPOMENIdSMALL LETTER OMEGA WITH PSILI",
      "pDASIApPSILI AND VARIApDASIA AND VARIApPSILI AND OXIApDASIA AND OXIA",
      "pPSILI AND PERISPOMENIpDASIA AND PERISPOMENIdCAPITAL LETTER OMEGA WITH PSILIqDASIA",
      "qPSILI AND VARIAqDASIA AND VARIAqPSILI AND OXIAqDASIA AND OXIAqPSILI AND PERISPOMENI",
      "qDASIA AND PERISPOMENIdSMALL LETTER ALPHA WITH VARIApOXIAj EPSILON WITH VARIAqOXIA",
      "kTA WITH VARIAoOXIAj IOTA WITH VARIAo OXIAj OMICRON WITH VARIAqOXIAj UPSILON WITH VARIA",
      "qOXIAj OMEGA WITH VARIApOXIA"]),
   (0x1F80,
     ["aGREEK SMALL LETTER ALPHA WITH PSILI AND YPOGEGRAMMENIpDASIA AND YPOGEGRAMMENI",
      "pPSILI AND VARIA AND YPOGEGRAMMENIpDASIA AND VARIA AND YPOGEGRAMMENI",
      "pPSILI AND OXIA AND YPOGEGRAMMENIpDASIA AND OXIA AND YPOGEGRAMMENI",
      "pPSILI AND PERISPOMENI AND YPOGEGRAMMENIpDASIA AND PERISPOMENI AND YPOGEGRAMMENI",
      "dCAPITAL LETTER ALPHA WITH PSILI AND PROSGEGRAMMENIqDASIA AND PROSGEGRAMMENI",
      "qPSILI AND VARIA AND PROSGEGRAMMENIqDASIA AND VARIA AND PROSGEGRAMMENI",
      "qPSILI AND OXIA AND PROSGEGRAMMENIqDASIA AND OXIA AND PROSGEGRAMMENI",
      "qPSILI AND PERISPOMENI AND PROSGEGRAMMENIqDASIA AND PERISPOMENI AND PROSGEGRAMMENI",
      "dSMALL LETTER ETA WITH PSILI AND YPOGEGRAMMENIoDASIA AND YPOGEGRAMMENI",
      "oPSILI AND VARIA AND YPOGEGRAMMENIoDASIA AND VARIA AND YPOGEGRAMMENI",
      "oPSILI AND OXIA AND YPOGEGRAMMENIoDASIA AND OXIA AND YPOGEGRAMMENI",
      "oPSILI AND PERISPOMENI AND YPOGEGRAMMENIoDASIA AND PERISPOMENI AND YPOGEGRAMMENI",
      "dCAPITAL LETTER ETA WITH PSILI AND PROSGEGRAMMENIpDASIA AND PROSGEGRAMMENI",
      "pPSILI AND VARIA AND PROSGEGRAMMENIpDASIA AND VARIA AND PROSGEGRAMMENI",
      "pPSILI AND OXIA AND PROSGEGRAMMENIpDASIA AND OXIA AND PROSGEGRAMMENI",
      "pPSILI AND PERISPOMENI AND PROSGEGRAMMENIpDASIA AND PERISPOMENI AND PROSGEGRAMMENI",
      "dSMALL LETTER OMEGA WITH PSILI AND YPOGEGRAMMENIpDASIA AND YPOGEGRAMMENI",
      "pPSILI AND VARIA AND YPOGEGRAMMENIpDASIA AND VARIA AND YPOGEGRAMMENI",
      "pPSILI AND OXIA AND YPOGEGRAMMENIpDASIA AND OXIA AND YPOGEGRAMMENI",
      "pPSILI AND PERISPOMENI AND YPOGEGRAMMENIpDASIA AND PERISPOMENI AND YPOGEGRAMMENI",
      "dCAPITAL LETTER OMEGA WITH PSILI AND PROSGEGRAMMENIqDASIA AND PROSGEGRAMMENI",
      "qPSILI AND VARIA AND PROSGEGRAMMENIqDASIA AND VARIA AND PROSGEGRAMMENI",
      "qPSILI AND OXIA AND PROSGEGRAMMENIqDASIA AND OXIA AND PROSGEGRAMMENI",
      "qPSILI AND PERISPOMENI AND PROSGEGRAMMENIqDASIA AND PERISPOMENI AND PROSGEGRAMMENI",
      "dSMALL LETTER ALPHA WITH VRACHYpMACRONpVARIA AND YPOGEGRAMMENIpYPOGEGRAMMENI",
      "pOXIA AND YPOGEGRAMMENI"]),
   (0x1FB6,
     ["aGREEK SMALL LETTER ALPHA WITH PERISPOMENIuI AND YPOGEGRAMMENI",
      "dCAPITAL LETTER ALPHA WITH VRACHYqMACRONqVARIAqOXIAqPROSGEGRAMMENIdKORONIS",
      "dPROSGEGRAMMENIdPSILIdPERISPOMENIdDIALYTIKA AND PERISPOMENI",
      "dSMALL LETTER ETA WITH VARIA AND YPOGEGRAMMENIoYPOGEGRAMMENIoOXIA AND YPOGEGRAMMENI"]),
   (0x1FC6,
     ["aGREEK SMALL LETTER ETA WITH PERISPOMENItI AND YPOGEGRAMMENI",
      "dCAPITAL LETTER EPSILON WITH VARIArOXIAlTA WITH VARIApOXIApPROSGEGRAMMENI",
      "dPSILI AND VARIAiOXIAiPERISPOMENIdSMALL LETTER IOTA WITH VRACHYo MACRON",
      "o DIALYTIKA AND VARIAv OXIA"]),
   (0x1FD6,
     ["aGREEK SMALL LETTER IOTA WITH PERISPOMENIo DIALYTIKA AND PERISPOMENI",
      "dCAPITAL LETTER IOTA WITH VRACHYp MACRONp VARIAp OXIA"]),
   (0x1FDD,
     ["aGREEK DASIA AND VARIAiOXIAiPERISPOMENIdSMALL LETTER UPSILON WITH VRACHYqMACRON",
      "qDIALYTIKA AND VARIAxOXIAj RHO WITH PSILIoDASIAj UPSILON WITH PERISPOMENI",
      "qDIALYTIKA AND PERISPOMENIdCAPITAL LETTER UPSILON WITH VRACHYrMACRONrVARIArOXIA",
      "k RHO WITH DASIAdDIALYTIKA AND VARIAkOXIAdVARIA"]),
   (0x1FF2,
     ["aGREEK SMALL LETTER OMEGA WITH VARIA AND YPOGEGRAMMENIpYPOGEGRAMMENI",
      "pOXIA AND YPOGEGRAMMENI"]),
   (0x1FF6,
     ["aGREEK SMALL LETTER OMEGA WITH PERISPOMENIuI AND YPOGEGRAMMENI",
      "dCAPITAL LETTER OMICRON WITH VARIArOXIAlMEGA WITH VARIAqOXIAqPROSGEGRAMMENIdOXIAdDASIA"])]

end TreeQuote.CharacterName

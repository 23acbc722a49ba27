/-!
# Names of punctuation and symbols

The characters from U+2000 to U+2BFF: punctuation, currencies, arrows, operators and other signs.
Each line gives the code point of its first name; the names of the characters after it follow, each
behind a small letter that tells how many words it shares with the name before it.
-/

namespace RecordAudit.Text.CharacterName

def symbols : List (Nat × String) :=
  [(0x2000, "aEN QUADaEM QUADaEN SPACEaEM SPACEaTHREE-PER-EM SPACEaFOUR-PER-EM SPACE"),
   (0x2006, "aSIX-PER-EM SPACEaFIGURE SPACEaPUNCTUATION SPACEaTHIN SPACEaHAIR SPACE"),
   (0x200B, "aZERO WIDTH SPACEcNON-JOINERcJOINERaLEFT-TO-RIGHT MARKaRIGHT-TO-LEFT MARK"),
   (0x2010, "aHYPHENaNON-BREAKING HYPHENaFIGURE DASHaEN DASHaEM DASHaHORIZONTAL BAR"),
   (0x2016, "aDOUBLE VERTICAL LINEbLOW LINEaLEFT SINGLE QUOTATION MARK"),
   (0x2019, "aRIGHT SINGLE QUOTATION MARKaSINGLE LOW-9 QUOTATION MARK"),
   (0x201B, "bHIGH-REVERSED-9 QUOTATION MARKaLEFT DOUBLE QUOTATION MARK"),
   (0x201D, "aRIGHT DOUBLE QUOTATION MARKaDOUBLE LOW-9 QUOTATION MARK"),
   (0x201F, "bHIGH-REVERSED-9 QUOTATION MARKaDAGGERaDOUBLE DAGGERaBULLETaTRIANGULAR BULLET"),
   (0x2024, "aONE DOT LEADERaTWO DOT LEADERaHORIZONTAL ELLIPSISaHYPHENATION POINT"),
   (0x2028, "aLINE SEPARATORaPARAGRAPH SEPARATORaLEFT-TO-RIGHT EMBEDDING"),
   (0x202B, "aRIGHT-TO-LEFT EMBEDDINGaPOP DIRECTIONAL FORMATTINGaLEFT-TO-RIGHT OVERRIDE"),
   (0x202E, "aRIGHT-TO-LEFT OVERRIDEaNARROW NO-BREAK SPACEaPER MILLE SIGNbTEN THOUSAND SIGN"),
   (0x2032, "aPRIMEaDOUBLE PRIMEaTRIPLE PRIMEaREVERSED PRIMEbDOUBLE PRIMEbTRIPLE PRIME"),
   (0x2038, "aCARETaSINGLE LEFT-POINTING ANGLE QUOTATION MARK"),
   (0x203A, "bRIGHT-POINTING ANGLE QUOTATION MARKaREFERENCE MARKaDOUBLE EXCLAMATION MARK"),
   (0x203D, "aINTERROBANGaOVERLINEaUNDERTIEaCHARACTER TIEaCARET INSERTION POINTaASTERISM"),
   (0x2043, "aHYPHEN BULLETaFRACTION SLASHaLEFT SQUARE BRACKET WITH QUILL"),
   (0x2046, "aRIGHT SQUARE BRACKET WITH QUILLaDOUBLE QUESTION MARK"),
   (0x2048, "aQUESTION EXCLAMATION MARKaEXCLAMATION QUESTION MARKaTIRONIAN SIGN ET"),
   (0x204B, "aREVERSED PILCROW SIGNaBLACK LEFTWARDS BULLETbRIGHTWARDS BULLETaLOW ASTERISK"),
   (0x204F, "aREVERSED SEMICOLONaCLOSE UPaTWO ASTERISKS ALIGNED VERTICALLY"),
   (0x2052, "aCOMMERCIAL MINUS SIGNaSWUNG DASHaINVERTED UNDERTIEaFLOWER PUNCTUATION MARK"),
   (0x2056, "aTHREE DOT PUNCTUATIONaQUADRUPLE PRIMEaFOUR DOT PUNCTUATION"),
   (0x2059, "aFIVE DOT PUNCTUATIONaTWO DOT PUNCTUATIONaFOUR DOT MARKaDOTTED CROSSaTRICOLON"),
   (0x205E, "aVERTICAL FOUR DOTSaMEDIUM MATHEMATICAL SPACEaWORD JOINERaFUNCTION APPLICATION"),
   (0x2062, "aINVISIBLE TIMESbSEPARATORbPLUS"),
   (0x2066, "aLEFT-TO-RIGHT ISOLATEaRIGHT-TO-LEFT ISOLATEaFIRST STRONG ISOLATE"),
   (0x2069, "aPOP DIRECTIONAL ISOLATEaINHIBIT SYMMETRIC SWAPPING"),
   (0x206B, "aACTIVATE SYMMETRIC SWAPPINGaINHIBIT ARABIC FORM SHAPING"),
   (0x206D, "aACTIVATE ARABIC FORM SHAPINGaNATIONAL DIGIT SHAPESaNOMINAL DIGIT SHAPES"),
   (0x2070, "aSUPERSCRIPT ZERObLATIN SMALL LETTER I"),
   (0x2074, "bFOURbFIVEbSIXbSEVENbEIGHTbNINEbPLUS SIGNbMINUSbEQUALS SIGNbLEFT PARENTHESIS"),
   (0x207E, "bRIGHT PARENTHESISbLATIN SMALL LETTER NaSUBSCRIPT ZERObONEbTWObTHREEbFOURbFIVE"),
   (0x2086, "bSIXbSEVENbEIGHTbNINEbPLUS SIGNbMINUSbEQUALS SIGNbLEFT PARENTHESIS"),
   (0x208E, "bRIGHT PARENTHESIS"),
   (0x2090, "aLATIN SUBSCRIPT SMALL LETTER AeEeOeXeSCHWAeHeKeLeMeNePeSeT"),
   (0x20A0, "aEURO-CURRENCY SIGNaCOLON SIGNaCRUZEIRO SIGNaFRENCH FRANC SIGNaLIRA SIGN"),
   (0x20A5, "aMILL SIGNaNAIRA SIGNaPESETA SIGNaRUPEE SIGNaWON SIGNaNEW SHEQEL SIGN"),
   (0x20AB, "aDONG SIGNaEURO SIGNaKIP SIGNaTUGRIK SIGNaDRACHMA SIGNaGERMAN PENNY SIGN"),
   (0x20B1, "aPESO SIGNaGUARANI SIGNaAUSTRAL SIGNaHRYVNIA SIGNaCEDI SIGN"),
   (0x20B6, "aLIVRE TOURNOIS SIGNaSPESMILO SIGNaTENGE SIGNaINDIAN RUPEE SIGN"),
   (0x20BA, "aTURKISH LIRA SIGNaNORDIC MARK SIGNaMANAT SIGNaRUBLE SIGNaLARI SIGN"),
   (0x20BF, "aBITCOIN SIGNaSOM SIGN"),
   (0x20D0, "aCOMBINING LEFT HARPOON ABOVEbRIGHT HARPOON ABOVEbLONG VERTICAL LINE OVERLAY"),
   (0x20D3, "bSHORT VERTICAL LINE OVERLAYbANTICLOCKWISE ARROW ABOVEbCLOCKWISE ARROW ABOVE"),
   (0x20D6, "bLEFT ARROW ABOVEbRIGHT ARROW ABOVEbRING OVERLAYbCLOCKWISE RING OVERLAY"),
   (0x20DA, "bANTICLOCKWISE RING OVERLAYbTHREE DOTS ABOVEbFOUR DOTS ABOVEbENCLOSING CIRCLE"),
   (0x20DE, "cSQUAREcDIAMONDcCIRCLE BACKSLASHbLEFT RIGHT ARROW ABOVEbENCLOSING SCREEN"),
   (0x20E3, "cKEYCAPcUPWARD POINTING TRIANGLEbREVERSE SOLIDUS OVERLAY"),
   (0x20E6, "bDOUBLE VERTICAL STROKE OVERLAYbANNUITY SYMBOLbTRIPLE UNDERDOT"),
   (0x20E9, "bWIDE BRIDGE ABOVEbLEFTWARDS ARROW OVERLAYbLONG DOUBLE SOLIDUS OVERLAY"),
   (0x20EC, "bRIGHTWARDS HARPOON WITH BARB DOWNWARDSbLEFTWARDS HARPOON WITH BARB DOWNWARDS"),
   (0x20EE, "bLEFT ARROW BELOWbRIGHT ARROW BELOWbASTERISK ABOVE"),
   (0x2100, "aACCOUNT OFaADDRESSED TO THE SUBJECTaDOUBLE-STRUCK CAPITAL CaDEGREE CELSIUS"),
   (0x2104, "aCENTRE LINE SYMBOLaCARE OFaCADA UNAaEULER CONSTANTaSCRUPLEaDEGREE FAHRENHEIT"),
   (0x210A, "aSCRIPT SMALL GbCAPITAL HaBLACK-LETTER CAPITAL HaDOUBLE-STRUCK CAPITAL H"),
   (0x210E, "aPLANCK CONSTANTbCONSTANT OVER TWO PIaSCRIPT CAPITAL IaBLACK-LETTER CAPITAL I"),
   (0x2112, "aSCRIPT CAPITAL LbSMALL LaL B BAR SYMBOLaDOUBLE-STRUCK CAPITAL NaNUMERO SIGN"),
   (0x2117, "aSOUND RECORDING COPYRIGHTaSCRIPT CAPITAL PaDOUBLE-STRUCK CAPITAL PdQ"),
   (0x211B, "aSCRIPT CAPITAL RaBLACK-LETTER CAPITAL RaDOUBLE-STRUCK CAPITAL R"),
   (0x211E, "aPRESCRIPTION TAKEaRESPONSEaSERVICE MARKaTELEPHONE SIGNaTRADE MARK SIGN"),
   (0x2123, "aVERSICLEaDOUBLE-STRUCK CAPITAL ZaOUNCE SIGNaOHM SIGNaINVERTED OHM SIGN"),
   (0x2128, "aBLACK-LETTER CAPITAL ZaTURNED GREEK SMALL LETTER IOTAaKELVIN SIGN"),
   (0x212B, "aANGSTROM SIGNaSCRIPT CAPITAL BaBLACK-LETTER CAPITAL CaESTIMATED SYMBOL"),
   (0x212F, "aSCRIPT SMALL EbCAPITAL EcFaTURNED CAPITAL FaSCRIPT CAPITAL MbSMALL O"),
   (0x2135, "aALEF SYMBOLaBET SYMBOLaGIMEL SYMBOLaDALET SYMBOLaINFORMATION SOURCE"),
   (0x213A, "aROTATED CAPITAL QaFACSIMILE SIGNaDOUBLE-STRUCK SMALL PIdGAMMAcCAPITAL GAMMA"),
   (0x213F, "dPIcN-ARY SUMMATIONaTURNED SANS-SERIF CAPITAL GeL"),
   (0x2143, "aREVERSED SANS-SERIF CAPITAL LaTURNED SANS-SERIF CAPITAL Y"),
   (0x2145, "aDOUBLE-STRUCK ITALIC CAPITAL DdSMALL DeEeIeJaPROPERTY LINEaTURNED AMPERSAND"),
   (0x214C, "aPER SIGNaAKTIESELSKABaTURNED SMALL FaSYMBOL FOR SAMARITAN SOURCE"),
   (0x2150, "aVULGAR FRACTION ONE SEVENTHdNINTHdTENTHdTHIRDcTWO THIRDScONE FIFTHcTWO FIFTHS"),
   (0x2157, "cTHREE FIFTHScFOUR FIFTHScONE SIXTHcFIVE SIXTHScONE EIGHTHcTHREE EIGHTHS"),
   (0x215D, "cFIVE EIGHTHScSEVEN EIGHTHSaFRACTION NUMERATOR ONEaROMAN NUMERAL ONEcTWOcTHREE"),
   (0x2163, "cFOURcFIVEcSIXcSEVENcEIGHTcNINEcTENcELEVENcTWELVEcFIFTYcONE HUNDRED"),
   (0x216E, "cFIVE HUNDREDcONE THOUSANDaSMALL ROMAN NUMERAL ONEdTWOdTHREEdFOURdFIVEdSIX"),
   (0x2176, "dSEVENdEIGHTdNINEdTENdELEVENdTWELVEdFIFTYdONE HUNDREDdFIVE HUNDRED"),
   (0x217F, "dONE THOUSANDaROMAN NUMERAL ONE THOUSAND C DcFIVE THOUSANDcTEN THOUSAND"),
   (0x2183, "cREVERSED ONE HUNDREDaLATIN SMALL LETTER REVERSED C"),
   (0x2185, "aROMAN NUMERAL SIX LATE FORMcFIFTY EARLY FORMdTHOUSANDcONE HUNDRED THOUSAND"),
   (0x2189, "aVULGAR FRACTION ZERO THIRDSaTURNED DIGIT TWOcTHREE"),
   (0x2190, "aLEFTWARDS ARROWaUPWARDS ARROWaRIGHTWARDS ARROWaDOWNWARDS ARROW"),
   (0x2194, "aLEFT RIGHT ARROWaUP DOWN ARROWaNORTH WEST ARROWbEAST ARROWaSOUTH EAST ARROW"),
   (0x2199, "bWEST ARROWaLEFTWARDS ARROW WITH STROKEaRIGHTWARDS ARROW WITH STROKE"),
   (0x219C, "aLEFTWARDS WAVE ARROWaRIGHTWARDS WAVE ARROWaLEFTWARDS TWO HEADED ARROW"),
   (0x219F, "aUPWARDS TWO HEADED ARROWaRIGHTWARDS TWO HEADED ARROW"),
   (0x21A1, "aDOWNWARDS TWO HEADED ARROWaLEFTWARDS ARROW WITH TAIL"),
   (0x21A3, "aRIGHTWARDS ARROW WITH TAILaLEFTWARDS ARROW FROM BARaUPWARDS ARROW FROM BAR"),
   (0x21A6, "aRIGHTWARDS ARROW FROM BARaDOWNWARDS ARROW FROM BARaUP DOWN ARROW WITH BASE"),
   (0x21A9, "aLEFTWARDS ARROW WITH HOOKaRIGHTWARDS ARROW WITH HOOK"),
   (0x21AB, "aLEFTWARDS ARROW WITH LOOPaRIGHTWARDS ARROW WITH LOOPaLEFT RIGHT WAVE ARROW"),
   (0x21AE, "cARROW WITH STROKEaDOWNWARDS ZIGZAG ARROWaUPWARDS ARROW WITH TIP LEFTWARDS"),
   (0x21B1, "eRIGHTWARDSaDOWNWARDS ARROW WITH TIP LEFTWARDSeRIGHTWARDS"),
   (0x21B4, "aRIGHTWARDS ARROW WITH CORNER DOWNWARDSaDOWNWARDS ARROW WITH CORNER LEFTWARDS"),
   (0x21B6, "aANTICLOCKWISE TOP SEMICIRCLE ARROWaCLOCKWISE TOP SEMICIRCLE ARROW"),
   (0x21B8, "aNORTH WEST ARROW TO LONG BAR"),
   (0x21B9, "aLEFTWARDS ARROW TO BAR OVER RIGHTWARDS ARROW TO BAR"),
   (0x21BA, "aANTICLOCKWISE OPEN CIRCLE ARROWaCLOCKWISE OPEN CIRCLE ARROW"),
   (0x21BC, "aLEFTWARDS HARPOON WITH BARB UPWARDSeDOWNWARDS"),
   (0x21BE, "aUPWARDS HARPOON WITH BARB RIGHTWARDSeLEFTWARDS"),
   (0x21C0, "aRIGHTWARDS HARPOON WITH BARB UPWARDSeDOWNWARDS"),
   (0x21C2, "aDOWNWARDS HARPOON WITH BARB RIGHTWARDSeLEFTWARDS"),
   (0x21C4, "aRIGHTWARDS ARROW OVER LEFTWARDS ARROW"),
   (0x21C5, "aUPWARDS ARROW LEFTWARDS OF DOWNWARDS ARROW"),
   (0x21C6, "aLEFTWARDS ARROW OVER RIGHTWARDS ARROWbPAIRED ARROWSaUPWARDS PAIRED ARROWS"),
   (0x21C9, "aRIGHTWARDS PAIRED ARROWSaDOWNWARDS PAIRED ARROWS"),
   (0x21CB, "aLEFTWARDS HARPOON OVER RIGHTWARDS HARPOON"),
   (0x21CC, "aRIGHTWARDS HARPOON OVER LEFTWARDS HARPOONaLEFTWARDS DOUBLE ARROW WITH STROKE"),
   (0x21CE, "aLEFT RIGHT DOUBLE ARROW WITH STROKEaRIGHTWARDS DOUBLE ARROW WITH STROKE"),
   (0x21D0, "aLEFTWARDS DOUBLE ARROWaUPWARDS DOUBLE ARROWaRIGHTWARDS DOUBLE ARROW"),
   (0x21D3, "aDOWNWARDS DOUBLE ARROWaLEFT RIGHT DOUBLE ARROWaUP DOWN DOUBLE ARROW"),
   (0x21D6, "aNORTH WEST DOUBLE ARROWbEAST DOUBLE ARROWaSOUTH EAST DOUBLE ARROW"),
   (0x21D9, "bWEST DOUBLE ARROWaLEFTWARDS TRIPLE ARROWaRIGHTWARDS TRIPLE ARROW"),
   (0x21DC, "aLEFTWARDS SQUIGGLE ARROWaRIGHTWARDS SQUIGGLE ARROW"),
   (0x21DE, "aUPWARDS ARROW WITH DOUBLE STROKEaDOWNWARDS ARROW WITH DOUBLE STROKE"),
   (0x21E0, "aLEFTWARDS DASHED ARROWaUPWARDS DASHED ARROWaRIGHTWARDS DASHED ARROW"),
   (0x21E3, "aDOWNWARDS DASHED ARROWaLEFTWARDS ARROW TO BARaRIGHTWARDS ARROW TO BAR"),
   (0x21E6, "aLEFTWARDS WHITE ARROWaUPWARDS WHITE ARROWaRIGHTWARDS WHITE ARROW"),
   (0x21E9, "aDOWNWARDS WHITE ARROWaUPWARDS WHITE ARROW FROM BARdON PEDESTAL"),
   (0x21EC, "ePEDESTAL WITH HORIZONTAL BARgVERTICAL BARcDOUBLE ARROWdARROW ON PEDESTAL"),
   (0x21F0, "aRIGHTWARDS WHITE ARROW FROM WALLaNORTH WEST ARROW TO CORNER"),
   (0x21F2, "aSOUTH EAST ARROW TO CORNERaUP DOWN WHITE ARROWaRIGHT ARROW WITH SMALL CIRCLE"),
   (0x21F5, "aDOWNWARDS ARROW LEFTWARDS OF UPWARDS ARROWaTHREE RIGHTWARDS ARROWS"),
   (0x21F7, "aLEFTWARDS ARROW WITH VERTICAL STROKEaRIGHTWARDS ARROW WITH VERTICAL STROKE"),
   (0x21F9, "aLEFT RIGHT ARROW WITH VERTICAL STROKE"),
   (0x21FA, "aLEFTWARDS ARROW WITH DOUBLE VERTICAL STROKE"),
   (0x21FB, "aRIGHTWARDS ARROW WITH DOUBLE VERTICAL STROKE"),
   (0x21FC, "aLEFT RIGHT ARROW WITH DOUBLE VERTICAL STROKEaLEFTWARDS OPEN-HEADED ARROW"),
   (0x21FE, "aRIGHTWARDS OPEN-HEADED ARROWaLEFT RIGHT OPEN-HEADED ARROWaFOR ALLaCOMPLEMENT"),
   (0x2202, "aPARTIAL DIFFERENTIALaTHERE EXISTSbDOES NOT EXISTaEMPTY SETaINCREMENTaNABLA"),
   (0x2208, "aELEMENT OFaNOT AN ELEMENT OFaSMALL ELEMENT OFaCONTAINS AS MEMBER"),
   (0x220C, "aDOES NOT CONTAIN AS MEMBERaSMALL CONTAINS AS MEMBERaEND OF PROOF"),
   (0x220F, "aN-ARY PRODUCTcCOPRODUCTcSUMMATIONaMINUS SIGNaMINUS-OR-PLUS SIGNaDOT PLUS"),
   (0x2215, "aDIVISION SLASHaSET MINUSaASTERISK OPERATORaRING OPERATORaBULLET OPERATOR"),
   (0x221A, "aSQUARE ROOTaCUBE ROOTaFOURTH ROOTaPROPORTIONAL TOaINFINITYaRIGHT ANGLEaANGLE"),
   (0x2221, "aMEASURED ANGLEaSPHERICAL ANGLEaDIVIDESaDOES NOT DIVIDEaPARALLEL TO"),
   (0x2226, "aNOT PARALLEL TOaLOGICAL ANDbORaINTERSECTIONaUNIONaINTEGRALaDOUBLE INTEGRAL"),
   (0x222D, "aTRIPLE INTEGRALaCONTOUR INTEGRALaSURFACE INTEGRALaVOLUME INTEGRAL"),
   (0x2231, "aCLOCKWISE INTEGRALbCONTOUR INTEGRALaANTICLOCKWISE CONTOUR INTEGRALaTHEREFORE"),
   (0x2235, "aBECAUSEaRATIOaPROPORTIONaDOT MINUSaEXCESSaGEOMETRIC PROPORTIONaHOMOTHETIC"),
   (0x223C, "aTILDE OPERATORaREVERSED TILDEaINVERTED LAZY SaSINE WAVEaWREATH PRODUCT"),
   (0x2241, "aNOT TILDEaMINUS TILDEaASYMPTOTICALLY EQUAL TOaNOT ASYMPTOTICALLY EQUAL TO"),
   (0x2245, "aAPPROXIMATELY EQUAL TObBUT NOT ACTUALLY EQUAL TO"),
   (0x2247, "aNEITHER APPROXIMATELY NOR ACTUALLY EQUAL TOaALMOST EQUAL TO"),
   (0x2249, "aNOT ALMOST EQUAL TOaALMOST EQUAL OR EQUAL TOaTRIPLE TILDEaALL EQUAL TO"),
   (0x224D, "aEQUIVALENT TOaGEOMETRICALLY EQUIVALENT TOaDIFFERENCE BETWEEN"),
   (0x2250, "aAPPROACHES THE LIMITaGEOMETRICALLY EQUAL TO"),
   (0x2252, "aAPPROXIMATELY EQUAL TO OR THE IMAGE OFaIMAGE OF OR APPROXIMATELY EQUAL TO"),
   (0x2254, "aCOLON EQUALSaEQUALS COLONaRING IN EQUAL TObEQUAL TOaCORRESPONDS TOaESTIMATES"),
   (0x225A, "aEQUIANGULAR TOaSTAR EQUALSaDELTA EQUAL TOaEQUAL TO BY DEFINITIONaMEASURED BY"),
   (0x225F, "aQUESTIONED EQUAL TOaNOT EQUAL TOaIDENTICAL TOaNOT IDENTICAL TO"),
   (0x2263, "aSTRICTLY EQUIVALENT TOaLESS-THAN OR EQUAL TOaGREATER-THAN OR EQUAL TO"),
   (0x2266, "aLESS-THAN OVER EQUAL TOaGREATER-THAN OVER EQUAL TOaLESS-THAN BUT NOT EQUAL TO"),
   (0x2269, "aGREATER-THAN BUT NOT EQUAL TOaMUCH LESS-THANbGREATER-THANaBETWEEN"),
   (0x226D, "aNOT EQUIVALENT TObLESS-THANbGREATER-THANaNEITHER LESS-THAN NOR EQUAL TO"),
   (0x2271, "bGREATER-THAN NOR EQUAL TOaLESS-THAN OR EQUIVALENT TO"),
   (0x2273, "aGREATER-THAN OR EQUIVALENT TOaNEITHER LESS-THAN NOR EQUIVALENT TO"),
   (0x2275, "bGREATER-THAN NOR EQUIVALENT TOaLESS-THAN OR GREATER-THAN"),
   (0x2277, "aGREATER-THAN OR LESS-THANaNEITHER LESS-THAN NOR GREATER-THAN"),
   (0x2279, "bGREATER-THAN NOR LESS-THANaPRECEDESaSUCCEEDSaPRECEDES OR EQUAL TO"),
   (0x227D, "aSUCCEEDS OR EQUAL TOaPRECEDES OR EQUIVALENT TOaSUCCEEDS OR EQUIVALENT TO"),
   (0x2280, "aDOES NOT PRECEDEcSUCCEEDaSUBSET OFaSUPERSET OFaNOT A SUBSET OFcSUPERSET OF"),
   (0x2286, "aSUBSET OF OR EQUAL TOaSUPERSET OF OR EQUAL TO"),
   (0x2288, "aNEITHER A SUBSET OF NOR EQUAL TOcSUPERSET OF NOR EQUAL TO"),
   (0x228A, "aSUBSET OF WITH NOT EQUAL TOaSUPERSET OF WITH NOT EQUAL TOaMULTISET"),
   (0x228D, "aMULTISET MULTIPLICATIONbUNIONaSQUARE IMAGE OFbORIGINAL OF"),
   (0x2291, "bIMAGE OF OR EQUAL TObORIGINAL OF OR EQUAL TObCAPbCUPaCIRCLED PLUSbMINUSbTIMES"),
   (0x2298, "bDIVISION SLASHbDOT OPERATORbRING OPERATORbASTERISK OPERATORbEQUALSbDASH"),
   (0x229E, "aSQUARED PLUSbMINUSbTIMESbDOT OPERATORaRIGHT TACKaLEFT TACKaDOWN TACKaUP TACK"),
   (0x22A6, "aASSERTIONaMODELSaTRUEaFORCESaTRIPLE VERTICAL BAR RIGHT TURNSTILE"),
   (0x22AB, "aDOUBLE VERTICAL BAR DOUBLE RIGHT TURNSTILEaDOES NOT PROVEaNOT TRUE"),
   (0x22AE, "aDOES NOT FORCEaNEGATED DOUBLE VERTICAL BAR DOUBLE RIGHT TURNSTILE"),
   (0x22B0, "aPRECEDES UNDER RELATIONaSUCCEEDS UNDER RELATIONaNORMAL SUBGROUP OF"),
   (0x22B3, "aCONTAINS AS NORMAL SUBGROUPaNORMAL SUBGROUP OF OR EQUAL TO"),
   (0x22B5, "aCONTAINS AS NORMAL SUBGROUP OR EQUAL TOaORIGINAL OFaIMAGE OFaMULTIMAP"),
   (0x22B9, "aHERMITIAN CONJUGATE MATRIXaINTERCALATEaXORaNANDaNORaRIGHT ANGLE WITH ARC"),
   (0x22BF, "bTRIANGLEaN-ARY LOGICAL ANDdORcINTERSECTIONcUNIONaDIAMOND OPERATOR"),
   (0x22C5, "aDOT OPERATORaSTAR OPERATORaDIVISION TIMESaBOWTIE"),
   (0x22C9, "aLEFT NORMAL FACTOR SEMIDIRECT PRODUCTaRIGHT NORMAL FACTOR SEMIDIRECT PRODUCT"),
   (0x22CB, "aLEFT SEMIDIRECT PRODUCTaRIGHT SEMIDIRECT PRODUCTaREVERSED TILDE EQUALS"),
   (0x22CE, "aCURLY LOGICAL ORcANDaDOUBLE SUBSETbSUPERSETbINTERSECTIONbUNIONaPITCHFORK"),
   (0x22D5, "aEQUAL AND PARALLEL TOaLESS-THAN WITH DOTaGREATER-THAN WITH DOT"),
   (0x22D8, "aVERY MUCH LESS-THANcGREATER-THANaLESS-THAN EQUAL TO OR GREATER-THAN"),
   (0x22DB, "aGREATER-THAN EQUAL TO OR LESS-THANaEQUAL TO OR LESS-THANdGREATER-THAN"),
   (0x22DE, "dPRECEDESdSUCCEEDSaDOES NOT PRECEDE OR EQUALcSUCCEED OR EQUAL"),
   (0x22E2, "aNOT SQUARE IMAGE OF OR EQUAL TOcORIGINAL OF OR EQUAL TO"),
   (0x22E4, "aSQUARE IMAGE OF OR NOT EQUAL TObORIGINAL OF OR NOT EQUAL TO"),
   (0x22E6, "aLESS-THAN BUT NOT EQUIVALENT TOaGREATER-THAN BUT NOT EQUIVALENT TO"),
   (0x22E8, "aPRECEDES BUT NOT EQUIVALENT TOaSUCCEEDS BUT NOT EQUIVALENT TO"),
   (0x22EA, "aNOT NORMAL SUBGROUP OFaDOES NOT CONTAIN AS NORMAL SUBGROUP"),
   (0x22EC, "aNOT NORMAL SUBGROUP OF OR EQUAL TO"),
   (0x22ED, "aDOES NOT CONTAIN AS NORMAL SUBGROUP OR EQUALaVERTICAL ELLIPSIS"),
   (0x22EF, "aMIDLINE HORIZONTAL ELLIPSISaUP RIGHT DIAGONAL ELLIPSIS"),
   (0x22F1, "aDOWN RIGHT DIAGONAL ELLIPSISaELEMENT OF WITH LONG HORIZONTAL STROKE"),
   (0x22F3, "dVERTICAL BAR AT END OF HORIZONTAL STROKE"),
   (0x22F4, "aSMALL ELEMENT OF WITH VERTICAL BAR AT END OF HORIZONTAL STROKE"),
   (0x22F5, "aELEMENT OF WITH DOT ABOVEdOVERBARaSMALL ELEMENT OF WITH OVERBAR"),
   (0x22F8, "aELEMENT OF WITH UNDERBARdTWO HORIZONTAL STROKES"),
   (0x22FA, "aCONTAINS WITH LONG HORIZONTAL STROKEcVERTICAL BAR AT END OF HORIZONTAL STROKE"),
   (0x22FC, "aSMALL CONTAINS WITH VERTICAL BAR AT END OF HORIZONTAL STROKE"),
   (0x22FD, "aCONTAINS WITH OVERBARaSMALL CONTAINS WITH OVERBARaZ NOTATION BAG MEMBERSHIP"),
   (0x2300, "aDIAMETER SIGNaELECTRIC ARROWaHOUSEaUP ARROWHEADaDOWN ARROWHEADaPROJECTIVE"),
   (0x2306, "aPERSPECTIVEaWAVY LINEaLEFT CEILINGaRIGHT CEILINGaLEFT FLOORaRIGHT FLOOR"),
   (0x230C, "aBOTTOM RIGHT CROPbLEFT CROPaTOP RIGHT CROPbLEFT CROPaREVERSED NOT SIGN"),
   (0x2311, "aSQUARE LOZENGEaARCaSEGMENTaSECTORaTELEPHONE RECORDERaPOSITION INDICATOR"),
   (0x2317, "aVIEWDATA SQUAREaPLACE OF INTEREST SIGNaTURNED NOT SIGNaWATCHaHOURGLASS"),
   (0x231C, "aTOP LEFT CORNERbRIGHT CORNERaBOTTOM LEFT CORNERbRIGHT CORNER"),
   (0x2320, "aTOP HALF INTEGRALaBOTTOM HALF INTEGRALaFROWNaSMILE"),
   (0x2324, "aUP ARROWHEAD BETWEEN TWO HORIZONTAL BARSaOPTION KEYaERASE TO THE RIGHT"),
   (0x2327, "aX IN A RECTANGLE BOXaKEYBOARDaLEFT-POINTING ANGLE BRACKET"),
   (0x232A, "aRIGHT-POINTING ANGLE BRACKETaERASE TO THE LEFTaBENZENE RINGaCYLINDRICITY"),
   (0x232E, "aALL AROUND-PROFILEaSYMMETRYaTOTAL RUNOUTaDIMENSION ORIGINaCONICAL TAPERaSLOPE"),
   (0x2334, "aCOUNTERBOREaCOUNTERSINKaAPL FUNCTIONAL SYMBOL I-BEAMdSQUISH QUADdQUAD EQUAL"),
   (0x2339, "eDIVIDEeDIAMONDeJOTeCIRCLEdCIRCLE STILEeJOTdSLASH BARdBACKSLASH BARdQUAD SLASH"),
   (0x2342, "eBACKSLASHeLESS-THANeGREATER-THANdLEFTWARDS VANEdRIGHTWARDS VANE"),
   (0x2347, "dQUAD LEFTWARDS ARROWeRIGHTWARDS ARROWdCIRCLE BACKSLASHdDOWN TACK UNDERBAR"),
   (0x234B, "dDELTA STILEdQUAD DOWN CARETeDELTAdDOWN TACK JOTdUPWARDS VANE"),
   (0x2350, "dQUAD UPWARDS ARROWdUP TACK OVERBARdDEL STILEdQUAD UP CARETeDELdUP TACK JOT"),
   (0x2356, "dDOWNWARDS VANEdQUAD DOWNWARDS ARROWdQUOTE UNDERBARdDELTA UNDERBAR"),
   (0x235A, "dDIAMOND UNDERBARdJOT UNDERBARdCIRCLE UNDERBARdUP SHOE JOTdQUOTE QUAD"),
   (0x235F, "dCIRCLE STARdQUAD COLONdUP TACK DIAERESISdDEL DIAERESISdSTAR DIAERESIS"),
   (0x2364, "dJOT DIAERESISdCIRCLE DIAERESISdDOWN SHOE STILEdLEFT SHOE STILE"),
   (0x2368, "dTILDE DIAERESISdGREATER-THAN DIAERESISdCOMMA BARdDEL TILDEdZILDEdSTILE TILDE"),
   (0x236E, "dSEMICOLON UNDERBARdQUAD NOT EQUALeQUESTIONdDOWN CARET TILDEdUP CARET TILDE"),
   (0x2373, "dIOTAdRHOdOMEGAdALPHA UNDERBARdEPSILON UNDERBARdIOTA UNDERBARdOMEGA UNDERBAR"),
   (0x237A, "dALPHAaNOT CHECK MARKaRIGHT ANGLE WITH DOWNWARDS ZIGZAG ARROW"),
   (0x237D, "aSHOULDERED OPEN BOXaBELL SYMBOLaVERTICAL LINE WITH MIDDLE DOT"),
   (0x2380, "aINSERTION SYMBOLaCONTINUOUS UNDERLINE SYMBOLaDISCONTINUOUS UNDERLINE SYMBOL"),
   (0x2383, "aEMPHASIS SYMBOLaCOMPOSITION SYMBOLaWHITE SQUARE WITH CENTRE VERTICAL LINE"),
   (0x2386, "aENTER SYMBOLaALTERNATIVE KEY SYMBOLaHELM SYMBOL"),
   (0x2389, "aCIRCLED HORIZONTAL BAR WITH NOTCHbTRIANGLE DOWN"),
   (0x238B, "aBROKEN CIRCLE WITH NORTHWEST ARROWaUNDO SYMBOLaMONOSTABLE SYMBOL"),
   (0x238E, "aHYSTERESIS SYMBOLaOPEN-CIRCUIT-OUTPUT H-TYPE SYMBOLdL-TYPE SYMBOL"),
   (0x2391, "aPASSIVE-PULL-DOWN-OUTPUT SYMBOLcUP-OUTPUT SYMBOL"),
   (0x2393, "aDIRECT CURRENT SYMBOL FORM TWOaSOFTWARE-FUNCTION SYMBOL"),
   (0x2395, "aAPL FUNCTIONAL SYMBOL QUADaDECIMAL SEPARATOR KEY SYMBOLaPREVIOUS PAGE"),
   (0x2398, "aNEXT PAGEaPRINT SCREEN SYMBOLaCLEAR SCREEN SYMBOLaLEFT PARENTHESIS UPPER HOOK"),
   (0x239C, "cEXTENSIONcLOWER HOOKaRIGHT PARENTHESIS UPPER HOOKcEXTENSIONcLOWER HOOK"),
   (0x23A1, "aLEFT SQUARE BRACKET UPPER CORNERdEXTENSIONdLOWER CORNER"),
   (0x23A4, "aRIGHT SQUARE BRACKET UPPER CORNERdEXTENSIONdLOWER CORNER"),
   (0x23A7, "aLEFT CURLY BRACKET UPPER HOOKdMIDDLE PIECEdLOWER HOOKaCURLY BRACKET EXTENSION"),
   (0x23AB, "aRIGHT CURLY BRACKET UPPER HOOKdMIDDLE PIECEdLOWER HOOKaINTEGRAL EXTENSION"),
   (0x23AF, "aHORIZONTAL LINE EXTENSIONaUPPER LEFT OR LOWER RIGHT CURLY BRACKET SECTION"),
   (0x23B1, "bRIGHT OR LOWER LEFT CURLY BRACKET SECTIONaSUMMATION TOPbBOTTOM"),
   (0x23B4, "aTOP SQUARE BRACKETaBOTTOM SQUARE BRACKETcBRACKET OVER TOP SQUARE BRACKET"),
   (0x23B7, "aRADICAL SYMBOL BOTTOMaLEFT VERTICAL BOX LINEaRIGHT VERTICAL BOX LINE"),
   (0x23BA, "aHORIZONTAL SCAN LINE-1d3d7d9aDENTISTRY SYMBOL LIGHT VERTICAL AND TOP RIGHT"),
   (0x23BF, "fBOTTOM RIGHTeWITH CIRCLEdDOWN AND HORIZONTAL WITH CIRCLE"),
   (0x23C2, "dUP AND HORIZONTAL WITH CIRCLEdVERTICAL WITH TRIANGLE"),
   (0x23C4, "dDOWN AND HORIZONTAL WITH TRIANGLEdUP AND HORIZONTAL WITH TRIANGLE"),
   (0x23C6, "dVERTICAL AND WAVEdDOWN AND HORIZONTAL WITH WAVEdUP AND HORIZONTAL WITH WAVE"),
   (0x23C9, "dDOWN AND HORIZONTALdUP AND HORIZONTALdVERTICAL AND TOP LEFTfBOTTOM LEFT"),
   (0x23CD, "aSQUARE FOOTaRETURN SYMBOLaEJECT SYMBOLaVERTICAL LINE EXTENSIONaMETRICAL BREVE"),
   (0x23D2, "bLONG OVER SHORTbSHORT OVER LONGbLONG OVER TWO SHORTSbTWO SHORTS OVER LONG"),
   (0x23D6, "dJOINEDbTRISEMEbTETRASEMEbPENTASEMEaEARTH GROUNDaFUSEaTOP PARENTHESIS"),
   (0x23DD, "aBOTTOM PARENTHESISaTOP CURLY BRACKETaBOTTOM CURLY BRACKET"),
   (0x23E0, "aTOP TORTOISE SHELL BRACKETaBOTTOM TORTOISE SHELL BRACKETaWHITE TRAPEZIUM"),
   (0x23E3, "aBENZENE RING WITH CIRCLEaSTRAIGHTNESSaFLATNESSaAC CURRENT"),
   (0x23E7, "aELECTRICAL INTERSECTIONaDECIMAL EXPONENT SYMBOL"),
   (0x23E9, "aBLACK RIGHT-POINTING DOUBLE TRIANGLEbLEFT-POINTING DOUBLE TRIANGLE"),
   (0x23EB, "bUP-POINTING DOUBLE TRIANGLEbDOWN-POINTING DOUBLE TRIANGLE"),
   (0x23ED, "bRIGHT-POINTING DOUBLE TRIANGLE WITH VERTICAL BAR"),
   (0x23EE, "bLEFT-POINTING DOUBLE TRIANGLE WITH VERTICAL BAR"),
   (0x23EF, "bRIGHT-POINTING TRIANGLE WITH DOUBLE VERTICAL BARaALARM CLOCKaSTOPWATCH"),
   (0x23F2, "aTIMER CLOCKaHOURGLASS WITH FLOWING SANDaBLACK MEDIUM LEFT-POINTING TRIANGLE"),
   (0x23F5, "cRIGHT-POINTING TRIANGLEcUP-POINTING TRIANGLEcDOWN-POINTING TRIANGLE"),
   (0x23F8, "aDOUBLE VERTICAL BARaBLACK SQUARE FOR STOPbCIRCLE FOR RECORDaPOWER SYMBOL"),
   (0x23FC, "bON-OFF SYMBOLbON SYMBOLbSLEEP SYMBOLaOBSERVER EYE SYMBOLaSYMBOL FOR NULL"),
   (0x2401, "cSTART OF HEADINGeTEXTcEND OF TEXTeTRANSMISSIONcENQUIRYcACKNOWLEDGEcBELL"),
   (0x2408, "cBACKSPACEcHORIZONTAL TABULATIONcLINE FEEDcVERTICAL TABULATIONcFORM FEED"),
   (0x240D, "cCARRIAGE RETURNcSHIFT OUTdINcDATA LINK ESCAPEcDEVICE CONTROL ONEeTWOeTHREE"),
   (0x2414, "eFOURcNEGATIVE ACKNOWLEDGEcSYNCHRONOUS IDLEcEND OF TRANSMISSION BLOCKcCANCEL"),
   (0x2419, "cEND OF MEDIUMcSUBSTITUTEcESCAPEcFILE SEPARATORcGROUP SEPARATOR"),
   (0x241E, "cRECORD SEPARATORcUNIT SEPARATORcSPACEcDELETEaBLANK SYMBOLaOPEN BOX"),
   (0x2424, "aSYMBOL FOR NEWLINEcDELETE FORM TWOcSUBSTITUTE FORM TWO"),
   (0x2440, "aOCR HOOKbCHAIRbFORKbINVERTED FORKbBELT BUCKLEbBOW TIE"),
   (0x2446, "bBRANCH BANK IDENTIFICATIONbAMOUNT OF CHECKbDASHbCUSTOMER ACCOUNT NUMBER"),
   (0x244A, "bDOUBLE BACKSLASH"),
   (0x2460, "aCIRCLED DIGIT ONEcTWOcTHREEcFOURcFIVEcSIXcSEVENcEIGHTcNINEbNUMBER TENcELEVEN"),
   (0x246B, "cTWELVEcTHIRTEENcFOURTEENcFIFTEENcSIXTEENcSEVENTEENcEIGHTEENcNINETEENcTWENTY"),
   (0x2474, "aPARENTHESIZED DIGIT ONEcTWOcTHREEcFOURcFIVEcSIXcSEVENcEIGHTcNINEbNUMBER TEN"),
   (0x247E, "cELEVENcTWELVEcTHIRTEENcFOURTEENcFIFTEENcSIXTEENcSEVENTEENcEIGHTEENcNINETEEN"),
   (0x2487, "cTWENTYaDIGIT ONE FULL STOPbTWO FULL STOPbTHREE FULL STOPbFOUR FULL STOP"),
   (0x248C, "bFIVE FULL STOPbSIX FULL STOPbSEVEN FULL STOPbEIGHT FULL STOPbNINE FULL STOP"),
   (0x2491, "aNUMBER TEN FULL STOPbELEVEN FULL STOPbTWELVE FULL STOPbTHIRTEEN FULL STOP"),
   (0x2495, "bFOURTEEN FULL STOPbFIFTEEN FULL STOPbSIXTEEN FULL STOPbSEVENTEEN FULL STOP"),
   (0x2499, "bEIGHTEEN FULL STOPbNINETEEN FULL STOPbTWENTY FULL STOP"),
   (0x249C, "aPARENTHESIZED LATIN SMALL LETTER AeBeCeDeEeFeGeHeIeJeKeLeMeNeOePeQeReSeTeUeV"),
   (0x24B2, "eWeXeYeZaCIRCLED LATIN CAPITAL LETTER AeBeCeDeEeFeGeHeIeJeKeLeMeNeOePeQeReSeT"),
   (0x24CA, "eUeVeWeXeYeZcSMALL LETTER AeBeCeDeEeFeGeHeIeJeKeLeMeNeOePeQeReSeTeUeVeWeXeYeZ"),
   (0x24EA, "bDIGIT ZEROaNEGATIVE CIRCLED NUMBER ELEVENdTWELVEdTHIRTEENdFOURTEENdFIFTEEN"),
   (0x24F0, "dSIXTEENdSEVENTEENdEIGHTEENdNINETEENdTWENTYaDOUBLE CIRCLED DIGIT ONEdTWOdTHREE"),
   (0x24F8, "dFOURdFIVEdSIXdSEVENdEIGHTdNINEcNUMBER TENaNEGATIVE CIRCLED DIGIT ZERO"),
   (0x2500, "aBOX DRAWINGS LIGHT HORIZONTALcHEAVY HORIZONTALcLIGHT VERTICALcHEAVY VERTICAL"),
   (0x2504, "cLIGHT TRIPLE DASH HORIZONTALcHEAVY TRIPLE DASH HORIZONTAL"),
   (0x2506, "cLIGHT TRIPLE DASH VERTICALcHEAVY TRIPLE DASH VERTICAL"),
   (0x2508, "cLIGHT QUADRUPLE DASH HORIZONTALcHEAVY QUADRUPLE DASH HORIZONTAL"),
   (0x250A, "cLIGHT QUADRUPLE DASH VERTICALcHEAVY QUADRUPLE DASH VERTICAL"),
   (0x250C, "cLIGHT DOWN AND RIGHTcDOWN LIGHT AND RIGHT HEAVYdHEAVY AND RIGHT LIGHT"),
   (0x250F, "cHEAVY DOWN AND RIGHTcLIGHT DOWN AND LEFTcDOWN LIGHT AND LEFT HEAVY"),
   (0x2512, "dHEAVY AND LEFT LIGHTcHEAVY DOWN AND LEFTcLIGHT UP AND RIGHT"),
   (0x2515, "cUP LIGHT AND RIGHT HEAVYdHEAVY AND RIGHT LIGHTcHEAVY UP AND RIGHT"),
   (0x2518, "cLIGHT UP AND LEFTcUP LIGHT AND LEFT HEAVYdHEAVY AND LEFT LIGHT"),
   (0x251B, "cHEAVY UP AND LEFTcLIGHT VERTICAL AND RIGHTcVERTICAL LIGHT AND RIGHT HEAVY"),
   (0x251E, "cUP HEAVY AND RIGHT DOWN LIGHTcDOWN HEAVY AND RIGHT UP LIGHT"),
   (0x2520, "cVERTICAL HEAVY AND RIGHT LIGHTcDOWN LIGHT AND RIGHT UP HEAVY"),
   (0x2522, "cUP LIGHT AND RIGHT DOWN HEAVYcHEAVY VERTICAL AND RIGHT"),
   (0x2524, "cLIGHT VERTICAL AND LEFTcVERTICAL LIGHT AND LEFT HEAVY"),
   (0x2526, "cUP HEAVY AND LEFT DOWN LIGHTcDOWN HEAVY AND LEFT UP LIGHT"),
   (0x2528, "cVERTICAL HEAVY AND LEFT LIGHTcDOWN LIGHT AND LEFT UP HEAVY"),
   (0x252A, "cUP LIGHT AND LEFT DOWN HEAVYcHEAVY VERTICAL AND LEFT"),
   (0x252C, "cLIGHT DOWN AND HORIZONTALcLEFT HEAVY AND RIGHT DOWN LIGHT"),
   (0x252E, "cRIGHT HEAVY AND LEFT DOWN LIGHTcDOWN LIGHT AND HORIZONTAL HEAVY"),
   (0x2530, "dHEAVY AND HORIZONTAL LIGHTcRIGHT LIGHT AND LEFT DOWN HEAVY"),
   (0x2532, "cLEFT LIGHT AND RIGHT DOWN HEAVYcHEAVY DOWN AND HORIZONTAL"),
   (0x2534, "cLIGHT UP AND HORIZONTALcLEFT HEAVY AND RIGHT UP LIGHT"),
   (0x2536, "cRIGHT HEAVY AND LEFT UP LIGHTcUP LIGHT AND HORIZONTAL HEAVY"),
   (0x2538, "dHEAVY AND HORIZONTAL LIGHTcRIGHT LIGHT AND LEFT UP HEAVY"),
   (0x253A, "cLEFT LIGHT AND RIGHT UP HEAVYcHEAVY UP AND HORIZONTAL"),
   (0x253C, "cLIGHT VERTICAL AND HORIZONTALcLEFT HEAVY AND RIGHT VERTICAL LIGHT"),
   (0x253E, "cRIGHT HEAVY AND LEFT VERTICAL LIGHTcVERTICAL LIGHT AND HORIZONTAL HEAVY"),
   (0x2540, "cUP HEAVY AND DOWN HORIZONTAL LIGHTcDOWN HEAVY AND UP HORIZONTAL LIGHT"),
   (0x2542, "cVERTICAL HEAVY AND HORIZONTAL LIGHTcLEFT UP HEAVY AND RIGHT DOWN LIGHT"),
   (0x2544, "cRIGHT UP HEAVY AND LEFT DOWN LIGHTcLEFT DOWN HEAVY AND RIGHT UP LIGHT"),
   (0x2546, "cRIGHT DOWN HEAVY AND LEFT UP LIGHTcDOWN LIGHT AND UP HORIZONTAL HEAVY"),
   (0x2548, "cUP LIGHT AND DOWN HORIZONTAL HEAVYcRIGHT LIGHT AND LEFT VERTICAL HEAVY"),
   (0x254A, "cLEFT LIGHT AND RIGHT VERTICAL HEAVYcHEAVY VERTICAL AND HORIZONTAL"),
   (0x254C, "cLIGHT DOUBLE DASH HORIZONTALcHEAVY DOUBLE DASH HORIZONTAL"),
   (0x254E, "cLIGHT DOUBLE DASH VERTICALcHEAVY DOUBLE DASH VERTICALcDOUBLE HORIZONTAL"),
   (0x2551, "dVERTICALcDOWN SINGLE AND RIGHT DOUBLEdDOUBLE AND RIGHT SINGLE"),
   (0x2554, "cDOUBLE DOWN AND RIGHTcDOWN SINGLE AND LEFT DOUBLEdDOUBLE AND LEFT SINGLE"),
   (0x2557, "cDOUBLE DOWN AND LEFTcUP SINGLE AND RIGHT DOUBLEdDOUBLE AND RIGHT SINGLE"),
   (0x255A, "cDOUBLE UP AND RIGHTcUP SINGLE AND LEFT DOUBLEdDOUBLE AND LEFT SINGLE"),
   (0x255D, "cDOUBLE UP AND LEFTcVERTICAL SINGLE AND RIGHT DOUBLEdDOUBLE AND RIGHT SINGLE"),
   (0x2560, "cDOUBLE VERTICAL AND RIGHTcVERTICAL SINGLE AND LEFT DOUBLE"),
   (0x2562, "dDOUBLE AND LEFT SINGLEcDOUBLE VERTICAL AND LEFT"),
   (0x2564, "cDOWN SINGLE AND HORIZONTAL DOUBLEdDOUBLE AND HORIZONTAL SINGLE"),
   (0x2566, "cDOUBLE DOWN AND HORIZONTALcUP SINGLE AND HORIZONTAL DOUBLE"),
   (0x2568, "dDOUBLE AND HORIZONTAL SINGLEcDOUBLE UP AND HORIZONTAL"),
   (0x256A, "cVERTICAL SINGLE AND HORIZONTAL DOUBLEdDOUBLE AND HORIZONTAL SINGLE"),
   (0x256C, "cDOUBLE VERTICAL AND HORIZONTALcLIGHT ARC DOWN AND RIGHTgLEFTeUP AND LEFT"),
   (0x2570, "gRIGHTdDIAGONAL UPPER RIGHT TO LOWER LEFTfLEFT TO LOWER RIGHTeCROSSdLEFTdUP"),
   (0x2576, "dRIGHTdDOWNcHEAVY LEFTdUPdRIGHTdDOWNcLIGHT LEFT AND HEAVY RIGHT"),
   (0x257D, "dUP AND HEAVY DOWNcHEAVY LEFT AND LIGHT RIGHTdUP AND LIGHT DOWN"),
   (0x2580, "aUPPER HALF BLOCKaLOWER ONE EIGHTH BLOCKcQUARTER BLOCKbTHREE EIGHTHS BLOCK"),
   (0x2584, "bHALF BLOCKbFIVE EIGHTHS BLOCKbTHREE QUARTERS BLOCKbSEVEN EIGHTHS BLOCK"),
   (0x2588, "aFULL BLOCKaLEFT SEVEN EIGHTHS BLOCKbTHREE QUARTERS BLOCKbFIVE EIGHTHS BLOCK"),
   (0x258C, "bHALF BLOCKbTHREE EIGHTHS BLOCKbONE QUARTER BLOCKcEIGHTH BLOCK"),
   (0x2590, "aRIGHT HALF BLOCKaLIGHT SHADEaMEDIUM SHADEaDARK SHADEaUPPER ONE EIGHTH BLOCK"),
   (0x2595, "aRIGHT ONE EIGHTH BLOCKaQUADRANT LOWER LEFTcRIGHTbUPPER LEFT"),
   (0x2599, "cLEFT AND LOWER LEFT AND LOWER RIGHTfRIGHTeUPPER RIGHT AND LOWER LEFTiRIGHT"),
   (0x259D, "cRIGHTcRIGHT AND LOWER LEFTfLEFT AND LOWER RIGHTaBLACK SQUAREaWHITE SQUARE"),
   (0x25A2, "bSQUARE WITH ROUNDED CORNERScCONTAINING BLACK SMALL SQUARE"),
   (0x25A4, "aSQUARE WITH HORIZONTAL FILLcVERTICAL FILLcORTHOGONAL CROSSHATCH FILL"),
   (0x25A7, "cUPPER LEFT TO LOWER RIGHT FILLdRIGHT TO LOWER LEFT FILL"),
   (0x25A9, "cDIAGONAL CROSSHATCH FILLaBLACK SMALL SQUAREaWHITE SMALL SQUARE"),
   (0x25AC, "aBLACK RECTANGLEaWHITE RECTANGLEaBLACK VERTICAL RECTANGLE"),
   (0x25AF, "aWHITE VERTICAL RECTANGLEaBLACK PARALLELOGRAMaWHITE PARALLELOGRAM"),
   (0x25B2, "aBLACK UP-POINTING TRIANGLEaWHITE UP-POINTING TRIANGLE"),
   (0x25B4, "aBLACK UP-POINTING SMALL TRIANGLEaWHITE UP-POINTING SMALL TRIANGLE"),
   (0x25B6, "aBLACK RIGHT-POINTING TRIANGLEaWHITE RIGHT-POINTING TRIANGLE"),
   (0x25B8, "aBLACK RIGHT-POINTING SMALL TRIANGLEaWHITE RIGHT-POINTING SMALL TRIANGLE"),
   (0x25BA, "aBLACK RIGHT-POINTING POINTERaWHITE RIGHT-POINTING POINTER"),
   (0x25BC, "aBLACK DOWN-POINTING TRIANGLEaWHITE DOWN-POINTING TRIANGLE"),
   (0x25BE, "aBLACK DOWN-POINTING SMALL TRIANGLEaWHITE DOWN-POINTING SMALL TRIANGLE"),
   (0x25C0, "aBLACK LEFT-POINTING TRIANGLEaWHITE LEFT-POINTING TRIANGLE"),
   (0x25C2, "aBLACK LEFT-POINTING SMALL TRIANGLEaWHITE LEFT-POINTING SMALL TRIANGLE"),
   (0x25C4, "aBLACK LEFT-POINTING POINTERaWHITE LEFT-POINTING POINTERaBLACK DIAMOND"),
   (0x25C7, "aWHITE DIAMONDbDIAMOND CONTAINING BLACK SMALL DIAMONDaFISHEYEaLOZENGE"),
   (0x25CB, "aWHITE CIRCLEaDOTTED CIRCLEaCIRCLE WITH VERTICAL FILLaBULLSEYEaBLACK CIRCLE"),
   (0x25D0, "aCIRCLE WITH LEFT HALF BLACKcRIGHT HALF BLACKcLOWER HALF BLACK"),
   (0x25D3, "cUPPER HALF BLACKdRIGHT QUADRANT BLACKcALL BUT UPPER LEFT QUADRANT BLACK"),
   (0x25D6, "aLEFT HALF BLACK CIRCLEaRIGHT HALF BLACK CIRCLEaINVERSE BULLETbWHITE CIRCLE"),
   (0x25DA, "aUPPER HALF INVERSE WHITE CIRCLEaLOWER HALF INVERSE WHITE CIRCLE"),
   (0x25DC, "aUPPER LEFT QUADRANT CIRCULAR ARCbRIGHT QUADRANT CIRCULAR ARC"),
   (0x25DE, "aLOWER RIGHT QUADRANT CIRCULAR ARCbLEFT QUADRANT CIRCULAR ARC"),
   (0x25E0, "aUPPER HALF CIRCLEaLOWER HALF CIRCLEaBLACK LOWER RIGHT TRIANGLEcLEFT TRIANGLE"),
   (0x25E4, "bUPPER LEFT TRIANGLEcRIGHT TRIANGLEaWHITE BULLETaSQUARE WITH LEFT HALF BLACK"),
   (0x25E8, "cRIGHT HALF BLACKcUPPER LEFT DIAGONAL HALF BLACK"),
   (0x25EA, "cLOWER RIGHT DIAGONAL HALF BLACKaWHITE SQUARE WITH VERTICAL BISECTING LINE"),
   (0x25EC, "bUP-POINTING TRIANGLE WITH DOTaUP-POINTING TRIANGLE WITH LEFT HALF BLACK"),
   (0x25EE, "eRIGHT HALF BLACKaLARGE CIRCLEaWHITE SQUARE WITH UPPER LEFT QUADRANT"),
   (0x25F1, "dLOWER LEFT QUADRANTeRIGHT QUADRANTdUPPER RIGHT QUADRANT"),
   (0x25F4, "bCIRCLE WITH UPPER LEFT QUADRANTdLOWER LEFT QUADRANTeRIGHT QUADRANT"),
   (0x25F7, "dUPPER RIGHT QUADRANTaUPPER LEFT TRIANGLEbRIGHT TRIANGLEaLOWER LEFT TRIANGLE"),
   (0x25FB, "aWHITE MEDIUM SQUAREaBLACK MEDIUM SQUAREaWHITE MEDIUM SMALL SQUARE"),
   (0x25FE, "aBLACK MEDIUM SMALL SQUAREaLOWER RIGHT TRIANGLEaBLACK SUN WITH RAYSaCLOUD"),
   (0x2602, "aUMBRELLAaSNOWMANaCOMETaBLACK STARaWHITE STARaLIGHTNINGaTHUNDERSTORMaSUN"),
   (0x260A, "aASCENDING NODEaDESCENDING NODEaCONJUNCTIONaOPPOSITIONaBLACK TELEPHONE"),
   (0x260F, "aWHITE TELEPHONEaBALLOT BOXbBOX WITH CHECKdXaSALTIREaUMBRELLA WITH RAIN DROPS"),
   (0x2615, "aHOT BEVERAGEaWHITE SHOGI PIECEaBLACK SHOGI PIECEaSHAMROCK"),
   (0x2619, "aREVERSED ROTATED FLORAL HEART BULLETaBLACK LEFT POINTING INDEX"),
   (0x261B, "bRIGHT POINTING INDEXaWHITE LEFT POINTING INDEXbUP POINTING INDEX"),
   (0x261E, "bRIGHT POINTING INDEXbDOWN POINTING INDEXaSKULL AND CROSSBONESaCAUTION SIGN"),
   (0x2622, "aRADIOACTIVE SIGNaBIOHAZARD SIGNaCADUCEUSaANKHaORTHODOX CROSSaCHI RHO"),
   (0x2628, "aCROSS OF LORRAINEcJERUSALEMaSTAR AND CRESCENTaFARSI SYMBOLaADI SHAKTI"),
   (0x262D, "aHAMMER AND SICKLEaPEACE SYMBOLaYIN YANGaTRIGRAM FOR HEAVENcLAKEcFIREcTHUNDER"),
   (0x2634, "cWINDcWATERcMOUNTAINcEARTHaWHEEL OF DHARMAaWHITE FROWNING FACEbSMILING FACE"),
   (0x263B, "aBLACK SMILING FACEaWHITE SUN WITH RAYSaFIRST QUARTER MOONaLAST QUARTER MOON"),
   (0x263F, "aMERCURYaFEMALE SIGNaEARTHaMALE SIGNaJUPITERaSATURNaURANUSaNEPTUNEaPLUTOaARIES"),
   (0x2649, "aTAURUSaGEMINIaCANCERaLEOaVIRGOaLIBRAaSCORPIUSaSAGITTARIUSaCAPRICORNaAQUARIUS"),
   (0x2653, "aPISCESaWHITE CHESS KINGcQUEENcROOKcBISHOPcKNIGHTcPAWNaBLACK CHESS KINGcQUEEN"),
   (0x265C, "cROOKcBISHOPcKNIGHTcPAWNbSPADE SUITaWHITE HEART SUITbDIAMOND SUIT"),
   (0x2663, "aBLACK CLUB SUITaWHITE SPADE SUITaBLACK HEART SUITbDIAMOND SUIT"),
   (0x2667, "aWHITE CLUB SUITaHOT SPRINGSaQUARTER NOTEaEIGHTH NOTEaBEAMED EIGHTH NOTES"),
   (0x266C, "bSIXTEENTH NOTESaMUSIC FLAT SIGNbNATURAL SIGNbSHARP SIGNaWEST SYRIAC CROSS"),
   (0x2671, "aEAST SYRIAC CROSSaUNIVERSAL RECYCLING SYMBOL"),
   (0x2673, "aRECYCLING SYMBOL FOR TYPE-1 PLASTICSe2 PLASTICSe3 PLASTICSe4 PLASTICS"),
   (0x2677, "e5 PLASTICSe6 PLASTICSe7 PLASTICSdGENERIC MATERIALS"),
   (0x267B, "aBLACK UNIVERSAL RECYCLING SYMBOLaRECYCLED PAPER SYMBOL"),
   (0x267D, "aPARTIALLY-RECYCLED PAPER SYMBOLaPERMANENT PAPER SIGNaWHEELCHAIR SYMBOL"),
   (0x2680, "aDIE FACE-1c2c3c4c5c6aWHITE CIRCLE WITH DOT RIGHTdTWO DOTS"),
   (0x2688, "aBLACK CIRCLE WITH WHITE DOT RIGHTdTWO WHITE DOTSaMONOGRAM FOR YANGcYIN"),
   (0x268C, "aDIGRAM FOR GREATER YANGcLESSER YINdYANGcGREATER YINaWHITE FLAGaBLACK FLAG"),
   (0x2692, "aHAMMER AND PICKaANCHORaCROSSED SWORDSaSTAFF OF AESCULAPIUSaSCALESaALEMBIC"),
   (0x2698, "aFLOWERaGEARaSTAFF OF HERMESaATOM SYMBOLaFLEUR-DE-LISaOUTLINED WHITE STAR"),
   (0x269E, "aTHREE LINES CONVERGING RIGHTdLEFTaWARNING SIGNaHIGH VOLTAGE SIGN"),
   (0x26A2, "aDOUBLED FEMALE SIGNbMALE SIGNaINTERLOCKED FEMALE AND MALE SIGN"),
   (0x26A5, "aMALE AND FEMALE SIGNbWITH STROKE SIGNdAND MALE AND FEMALE SIGN"),
   (0x26A8, "aVERTICAL MALE WITH STROKE SIGNaHORIZONTAL MALE WITH STROKE SIGN"),
   (0x26AA, "aMEDIUM WHITE CIRCLEbBLACK CIRCLEbSMALL WHITE CIRCLEaMARRIAGE SYMBOL"),
   (0x26AE, "aDIVORCE SYMBOLaUNMARRIED PARTNERSHIP SYMBOLaCOFFINaFUNERAL URNaNEUTERaCERES"),
   (0x26B4, "aPALLASaJUNOaVESTAaCHIRONaBLACK MOON LILITHaSEXTILEaSEMISEXTILEaQUINCUNX"),
   (0x26BC, "aSESQUIQUADRATEaSOCCER BALLaBASEBALLaSQUARED KEYaWHITE DRAUGHTS MANcKING"),
   (0x26C2, "aBLACK DRAUGHTS MANcKINGaSNOWMAN WITHOUT SNOWaSUN BEHIND CLOUDaRAIN"),
   (0x26C7, "aBLACK SNOWMANaTHUNDER CLOUD AND RAINaTURNED WHITE SHOGI PIECE"),
   (0x26CA, "bBLACK SHOGI PIECEaWHITE DIAMOND IN SQUAREaCROSSING LANESaDISABLED CAR"),
   (0x26CE, "aOPHIUCHUSaPICKaCAR SLIDINGaHELMET WITH WHITE CROSSaCIRCLED CROSSING LANES"),
   (0x26D3, "aCHAINSaNO ENTRYaALTERNATE ONE-WAY LEFT WAY TRAFFIC"),
   (0x26D6, "aBLACK TWO-WAY LEFT WAY TRAFFICaWHITE TWO-WAY LEFT WAY TRAFFIC"),
   (0x26D8, "aBLACK LEFT LANE MERGEaWHITE LEFT LANE MERGEaDRIVE SLOW SIGN"),
   (0x26DB, "aHEAVY WHITE DOWN-POINTING TRIANGLEaLEFT CLOSED ENTRYaSQUARED SALTIRE"),
   (0x26DE, "aFALLING DIAGONAL IN WHITE CIRCLE IN BLACK SQUAREaBLACK TRUCK"),
   (0x26E0, "aRESTRICTED LEFT ENTRY-1d2aASTRONOMICAL SYMBOL FOR URANUS"),
   (0x26E3, "aHEAVY CIRCLE WITH STROKE AND TWO DOTS ABOVEaPENTAGRAM"),
   (0x26E5, "aRIGHT-HANDED INTERLACED PENTAGRAMaLEFT-HANDED INTERLACED PENTAGRAM"),
   (0x26E7, "aINVERTED PENTAGRAMaBLACK CROSS ON SHIELDaSHINTO SHRINEaCHURCHaCASTLE"),
   (0x26EC, "aHISTORIC SITEaGEAR WITHOUT HUBbWITH HANDLESaMAP SYMBOL FOR LIGHTHOUSE"),
   (0x26F0, "aMOUNTAINaUMBRELLA ON GROUNDaFOUNTAINaFLAG IN HOLEaFERRYaSAILBOAT"),
   (0x26F6, "aSQUARE FOUR CORNERSaSKIERaICE SKATEaPERSON WITH BALLaTENT"),
   (0x26FB, "aJAPANESE BANK SYMBOLaHEADSTONE GRAVEYARD SYMBOLaFUEL PUMPaCUP ON BLACK SQUARE"),
   (0x26FF, "aWHITE FLAG WITH HORIZONTAL MIDDLE BLACK STRIPEaBLACK SAFETY SCISSORS"),
   (0x2701, "aUPPER BLADE SCISSORSaBLACK SCISSORSaLOWER BLADE SCISSORSaWHITE SCISSORS"),
   (0x2705, "bHEAVY CHECK MARKaTELEPHONE LOCATION SIGNaTAPE DRIVEaAIRPLANEaENVELOPE"),
   (0x270A, "aRAISED FISTbHANDaVICTORY HANDaWRITING HANDaLOWER RIGHT PENCILaPENCIL"),
   (0x2710, "aUPPER RIGHT PENCILaWHITE NIBaBLACK NIBaCHECK MARKaHEAVY CHECK MARK"),
   (0x2715, "aMULTIPLICATION XaHEAVY MULTIPLICATION XaBALLOT XaHEAVY BALLOT X"),
   (0x2719, "aOUTLINED GREEK CROSSaHEAVY GREEK CROSSaOPEN CENTRE CROSS"),
   (0x271C, "aHEAVY OPEN CENTRE CROSSaLATIN CROSSaSHADOWED WHITE LATIN CROSS"),
   (0x271F, "aOUTLINED LATIN CROSSaMALTESE CROSSaSTAR OF DAVID"),
   (0x2722, "aFOUR TEARDROP-SPOKED ASTERISKbBALLOON-SPOKED ASTERISK"),
   (0x2724, "aHEAVY FOUR BALLOON-SPOKED ASTERISKaFOUR CLUB-SPOKED ASTERISK"),
   (0x2726, "aBLACK FOUR POINTED STARaWHITE FOUR POINTED STARaSPARKLES"),
   (0x2729, "aSTRESS OUTLINED WHITE STARaCIRCLED WHITE STARaOPEN CENTRE BLACK STAR"),
   (0x272C, "aBLACK CENTRE WHITE STARaOUTLINED BLACK STARaHEAVY OUTLINED BLACK STAR"),
   (0x272F, "aPINWHEEL STARaSHADOWED WHITE STARaHEAVY ASTERISKaOPEN CENTRE ASTERISK"),
   (0x2733, "aEIGHT SPOKED ASTERISKbPOINTED BLACK STARcPINWHEEL STARaSIX POINTED BLACK STAR"),
   (0x2737, "aEIGHT POINTED RECTILINEAR BLACK STAR"),
   (0x2738, "aHEAVY EIGHT POINTED RECTILINEAR BLACK STARaTWELVE POINTED BLACK STAR"),
   (0x273A, "aSIXTEEN POINTED ASTERISKaTEARDROP-SPOKED ASTERISK"),
   (0x273C, "aOPEN CENTRE TEARDROP-SPOKED ASTERISKaHEAVY TEARDROP-SPOKED ASTERISK"),
   (0x273E, "aSIX PETALLED BLACK AND WHITE FLORETTEaBLACK FLORETTEaWHITE FLORETTE"),
   (0x2741, "aEIGHT PETALLED OUTLINED BLACK FLORETTEaCIRCLED OPEN CENTRE EIGHT POINTED STAR"),
   (0x2743, "aHEAVY TEARDROP-SPOKED PINWHEEL ASTERISKaSNOWFLAKEaTIGHT TRIFOLIATE SNOWFLAKE"),
   (0x2746, "aHEAVY CHEVRON SNOWFLAKEaSPARKLEaHEAVY SPARKLEaBALLOON-SPOKED ASTERISK"),
   (0x274A, "aEIGHT TEARDROP-SPOKED PROPELLER ASTERISK"),
   (0x274B, "aHEAVY EIGHT TEARDROP-SPOKED PROPELLER ASTERISKaCROSS MARK"),
   (0x274D, "aSHADOWED WHITE CIRCLEaNEGATIVE SQUARED CROSS MARK"),
   (0x274F, "aLOWER RIGHT DROP-SHADOWED WHITE SQUAREaUPPER RIGHT DROP-SHADOWED WHITE SQUARE"),
   (0x2751, "aLOWER RIGHT SHADOWED WHITE SQUAREaUPPER RIGHT SHADOWED WHITE SQUARE"),
   (0x2753, "aBLACK QUESTION MARK ORNAMENTaWHITE QUESTION MARK ORNAMENT"),
   (0x2755, "bEXCLAMATION MARK ORNAMENTaBLACK DIAMOND MINUS WHITE X"),
   (0x2757, "aHEAVY EXCLAMATION MARK SYMBOLaLIGHT VERTICAL BARaMEDIUM VERTICAL BAR"),
   (0x275A, "aHEAVY VERTICAL BARbSINGLE TURNED COMMA QUOTATION MARK ORNAMENT"),
   (0x275C, "cCOMMA QUOTATION MARK ORNAMENTbDOUBLE TURNED COMMA QUOTATION MARK ORNAMENT"),
   (0x275E, "cCOMMA QUOTATION MARK ORNAMENTbLOW SINGLE COMMA QUOTATION MARK ORNAMENT"),
   (0x2760, "cDOUBLE COMMA QUOTATION MARK ORNAMENTaCURVED STEM PARAGRAPH SIGN ORNAMENT"),
   (0x2762, "aHEAVY EXCLAMATION MARK ORNAMENTbHEART EXCLAMATION MARK ORNAMENTbBLACK HEART"),
   (0x2765, "aROTATED HEAVY BLACK HEART BULLETaFLORAL HEARTaROTATED FLORAL HEART BULLET"),
   (0x2768, "aMEDIUM LEFT PARENTHESIS ORNAMENTbRIGHT PARENTHESIS ORNAMENT"),
   (0x276A, "bFLATTENED LEFT PARENTHESIS ORNAMENTcRIGHT PARENTHESIS ORNAMENT"),
   (0x276C, "bLEFT-POINTING ANGLE BRACKET ORNAMENTbRIGHT-POINTING ANGLE BRACKET ORNAMENT"),
   (0x276E, "aHEAVY LEFT-POINTING ANGLE QUOTATION MARK ORNAMENT"),
   (0x276F, "bRIGHT-POINTING ANGLE QUOTATION MARK ORNAMENT"),
   (0x2770, "bLEFT-POINTING ANGLE BRACKET ORNAMENTbRIGHT-POINTING ANGLE BRACKET ORNAMENT"),
   (0x2772, "aLIGHT LEFT TORTOISE SHELL BRACKET ORNAMENT"),
   (0x2773, "bRIGHT TORTOISE SHELL BRACKET ORNAMENTaMEDIUM LEFT CURLY BRACKET ORNAMENT"),
   (0x2775, "bRIGHT CURLY BRACKET ORNAMENTaDINGBAT NEGATIVE CIRCLED DIGIT ONEeTWOeTHREE"),
   (0x2779, "eFOUReFIVEeSIXeSEVENeEIGHTeNINEdNUMBER TENbCIRCLED SANS-SERIF DIGIT ONEfTWO"),
   (0x2782, "fTHREEfFOURfFIVEfSIXfSEVENfEIGHTfNINEeNUMBER TEN"),
   (0x278A, "bNEGATIVE CIRCLED SANS-SERIF DIGIT ONEgTWOgTHREEgFOURgFIVEgSIXgSEVENgEIGHT"),
   (0x2792, "gNINEfNUMBER TENaHEAVY WIDE-HEADED RIGHTWARDS ARROWbPLUS SIGNbMINUS SIGN"),
   (0x2797, "bDIVISION SIGNbSOUTH EAST ARROWbRIGHTWARDS ARROWbNORTH EAST ARROW"),
   (0x279B, "aDRAFTING POINT RIGHTWARDS ARROWaHEAVY ROUND-TIPPED RIGHTWARDS ARROW"),
   (0x279D, "aTRIANGLE-HEADED RIGHTWARDS ARROWaHEAVY TRIANGLE-HEADED RIGHTWARDS ARROW"),
   (0x279F, "aDASHED TRIANGLE-HEADED RIGHTWARDS ARROW"),
   (0x27A0, "aHEAVY DASHED TRIANGLE-HEADED RIGHTWARDS ARROWaBLACK RIGHTWARDS ARROW"),
   (0x27A2, "aTHREE-D TOP-LIGHTED RIGHTWARDS ARROWHEADcBOTTOM-LIGHTED RIGHTWARDS ARROWHEAD"),
   (0x27A4, "aBLACK RIGHTWARDS ARROWHEADaHEAVY BLACK CURVED DOWNWARDS AND RIGHTWARDS ARROW"),
   (0x27A6, "dUPWARDS AND RIGHTWARDS ARROWaSQUAT BLACK RIGHTWARDS ARROW"),
   (0x27A8, "aHEAVY CONCAVE-POINTED BLACK RIGHTWARDS ARROW"),
   (0x27A9, "aRIGHT-SHADED WHITE RIGHTWARDS ARROWaLEFT-SHADED WHITE RIGHTWARDS ARROW"),
   (0x27AB, "aBACK-TILTED SHADOWED WHITE RIGHTWARDS ARROW"),
   (0x27AC, "aFRONT-TILTED SHADOWED WHITE RIGHTWARDS ARROW"),
   (0x27AD, "aHEAVY LOWER RIGHT-SHADOWED WHITE RIGHTWARDS ARROW"),
   (0x27AE, "bUPPER RIGHT-SHADOWED WHITE RIGHTWARDS ARROW"),
   (0x27AF, "aNOTCHED LOWER RIGHT-SHADOWED WHITE RIGHTWARDS ARROWaCURLY LOOP"),
   (0x27B1, "aNOTCHED UPPER RIGHT-SHADOWED WHITE RIGHTWARDS ARROW"),
   (0x27B2, "aCIRCLED HEAVY WHITE RIGHTWARDS ARROWaWHITE-FEATHERED RIGHTWARDS ARROW"),
   (0x27B4, "aBLACK-FEATHERED SOUTH EAST ARROWcRIGHTWARDS ARROWcNORTH EAST ARROW"),
   (0x27B7, "aHEAVY BLACK-FEATHERED SOUTH EAST ARROWdRIGHTWARDS ARROWdNORTH EAST ARROW"),
   (0x27BA, "aTEARDROP-BARBED RIGHTWARDS ARROWaHEAVY TEARDROP-SHANKED RIGHTWARDS ARROW"),
   (0x27BC, "aWEDGE-TAILED RIGHTWARDS ARROWaHEAVY WEDGE-TAILED RIGHTWARDS ARROW"),
   (0x27BE, "aOPEN-OUTLINED RIGHTWARDS ARROWaDOUBLE CURLY LOOPaTHREE DIMENSIONAL ANGLE"),
   (0x27C1, "aWHITE TRIANGLE CONTAINING SMALL WHITE TRIANGLEaPERPENDICULARaOPEN SUBSET"),
   (0x27C4, "bSUPERSETaLEFT S-SHAPED BAG DELIMITERaRIGHT S-SHAPED BAG DELIMITER"),
   (0x27C7, "aOR WITH DOT INSIDEaREVERSE SOLIDUS PRECEDING SUBSET"),
   (0x27C9, "aSUPERSET PRECEDING SOLIDUSaVERTICAL BAR WITH HORIZONTAL STROKE"),
   (0x27CB, "aMATHEMATICAL RISING DIAGONALaLONG DIVISIONaMATHEMATICAL FALLING DIAGONAL"),
   (0x27CE, "aSQUARED LOGICAL ANDcORaWHITE DIAMOND WITH CENTRED DOTaAND WITH DOT"),
   (0x27D2, "aELEMENT OF OPENING UPWARDSaLOWER RIGHT CORNER WITH DOT"),
   (0x27D4, "aUPPER LEFT CORNER WITH DOTaLEFT OUTER JOINaRIGHT OUTER JOINaFULL OUTER JOIN"),
   (0x27D8, "aLARGE UP TACKbDOWN TACKaLEFT AND RIGHT DOUBLE TURNSTILEdTACKbMULTIMAP"),
   (0x27DD, "aLONG RIGHT TACKbLEFT TACKaUP TACK WITH CIRCLE ABOVE"),
   (0x27E0, "aLOZENGE DIVIDED BY HORIZONTAL RULEaWHITE CONCAVE-SIDED DIAMOND"),
   (0x27E2, "dDIAMOND WITH LEFTWARDS TICKfRIGHTWARDS TICKbSQUARE WITH LEFTWARDS TICK"),
   (0x27E5, "dRIGHTWARDS TICKaMATHEMATICAL LEFT WHITE SQUARE BRACKET"),
   (0x27E7, "bRIGHT WHITE SQUARE BRACKETbLEFT ANGLE BRACKETbRIGHT ANGLE BRACKET"),
   (0x27EA, "bLEFT DOUBLE ANGLE BRACKETbRIGHT DOUBLE ANGLE BRACKET"),
   (0x27EC, "bLEFT WHITE TORTOISE SHELL BRACKETbRIGHT WHITE TORTOISE SHELL BRACKET"),
   (0x27EE, "bLEFT FLATTENED PARENTHESISbRIGHT FLATTENED PARENTHESIS"),
   (0x27F0, "aUPWARDS QUADRUPLE ARROWaDOWNWARDS QUADRUPLE ARROW"),
   (0x27F2, "aANTICLOCKWISE GAPPED CIRCLE ARROWaCLOCKWISE GAPPED CIRCLE ARROW"),
   (0x27F4, "aRIGHT ARROW WITH CIRCLED PLUSaLONG LEFTWARDS ARROWbRIGHTWARDS ARROW"),
   (0x27F7, "bLEFT RIGHT ARROWbLEFTWARDS DOUBLE ARROWbRIGHTWARDS DOUBLE ARROW"),
   (0x27FA, "bLEFT RIGHT DOUBLE ARROWbLEFTWARDS ARROW FROM BARbRIGHTWARDS ARROW FROM BAR"),
   (0x27FD, "bLEFTWARDS DOUBLE ARROW FROM BARbRIGHTWARDS DOUBLE ARROW FROM BAR"),
   (0x27FF, "cSQUIGGLE ARROWaBRAILLE PATTERN BLANKcDOTS-1d2d12d3d13d23d123d4d14d24d124d34"),
   (0x280D, "d134d234d1234d5d15d25d125d35d135d235d1235d45d145d245d1245d345d1345d2345d12345"),
   (0x2820, "d6d16d26d126d36d136d236d1236d46d146d246d1246d346d1346d2346d12346d56d156d256"),
   (0x2833, "d1256d356d1356d2356d12356d456d1456d2456d12456d3456d13456d23456d123456d7d17d27"),
   (0x2843, "d127d37d137d237d1237d47d147d247d1247d347d1347d2347d12347d57d157d257d1257d357"),
   (0x2855, "d1357d2357d12357d457d1457d2457d12457d3457d13457d23457d123457d67d167d267d1267"),
   (0x2864, "d367d1367d2367d12367d467d1467d2467d12467d3467d13467d23467d123467d567d1567d2567"),
   (0x2873, "d12567d3567d13567d23567d123567d4567d14567d24567d124567d34567d134567d234567"),
   (0x287F, "d1234567d8d18d28d128d38d138d238d1238d48d148d248d1248d348d1348d2348d12348d58"),
   (0x2891, "d158d258d1258d358d1358d2358d12358d458d1458d2458d12458d3458d13458d23458d123458"),
   (0x28A0, "d68d168d268d1268d368d1368d2368d12368d468d1468d2468d12468d3468d13468d23468"),
   (0x28AF, "d123468d568d1568d2568d12568d3568d13568d23568d123568d4568d14568d24568d124568"),
   (0x28BC, "d34568d134568d234568d1234568d78d178d278d1278d378d1378d2378d12378d478d1478d2478"),
   (0x28CB, "d12478d3478d13478d23478d123478d578d1578d2578d12578d3578d13578d23578d123578"),
   (0x28D8, "d4578d14578d24578d124578d34578d134578d234578d1234578d678d1678d2678d12678d3678"),
   (0x28E5, "d13678d23678d123678d4678d14678d24678d124678d34678d134678d234678d1234678d5678"),
   (0x28F1, "d15678d25678d125678d35678d135678d235678d1235678d45678d145678d245678d1245678"),
   (0x28FC, "d345678d1345678d2345678d12345678"),
   (0x2900, "aRIGHTWARDS TWO-HEADED ARROW WITH VERTICAL STROKEfDOUBLE VERTICAL STROKE"),
   (0x2902, "aLEFTWARDS DOUBLE ARROW WITH VERTICAL STROKE"),
   (0x2903, "aRIGHTWARDS DOUBLE ARROW WITH VERTICAL STROKE"),
   (0x2904, "aLEFT RIGHT DOUBLE ARROW WITH VERTICAL STROKE"),
   (0x2905, "aRIGHTWARDS TWO-HEADED ARROW FROM BARaLEFTWARDS DOUBLE ARROW FROM BAR"),
   (0x2907, "aRIGHTWARDS DOUBLE ARROW FROM BARaDOWNWARDS ARROW WITH HORIZONTAL STROKE"),
   (0x2909, "aUPWARDS ARROW WITH HORIZONTAL STROKEbTRIPLE ARROWaDOWNWARDS TRIPLE ARROW"),
   (0x290C, "aLEFTWARDS DOUBLE DASH ARROWaRIGHTWARDS DOUBLE DASH ARROW"),
   (0x290E, "aLEFTWARDS TRIPLE DASH ARROWaRIGHTWARDS TRIPLE DASH ARROW"),
   (0x2910, "bTWO-HEADED TRIPLE DASH ARROWbARROW WITH DOTTED STEMaUPWARDS ARROW TO BAR"),
   (0x2913, "aDOWNWARDS ARROW TO BARaRIGHTWARDS ARROW WITH TAIL WITH VERTICAL STROKE"),
   (0x2915, "fDOUBLE VERTICAL STROKEbTWO-HEADED ARROW WITH TAILfTAIL WITH VERTICAL STROKE"),
   (0x2918, "hDOUBLE VERTICAL STROKEaLEFTWARDS ARROW-TAILaRIGHTWARDS ARROW-TAIL"),
   (0x291B, "aLEFTWARDS DOUBLE ARROW-TAILaRIGHTWARDS DOUBLE ARROW-TAIL"),
   (0x291D, "aLEFTWARDS ARROW TO BLACK DIAMONDaRIGHTWARDS ARROW TO BLACK DIAMOND"),
   (0x291F, "aLEFTWARDS ARROW FROM BAR TO BLACK DIAMOND"),
   (0x2920, "aRIGHTWARDS ARROW FROM BAR TO BLACK DIAMONDaNORTH WEST AND SOUTH EAST ARROW"),
   (0x2922, "bEAST AND SOUTH WEST ARROWbWEST ARROW WITH HOOKbEAST ARROW WITH HOOK"),
   (0x2925, "aSOUTH EAST ARROW WITH HOOKbWEST ARROW WITH HOOK"),
   (0x2927, "aNORTH WEST ARROW AND NORTH EAST ARROWbEAST ARROW AND SOUTH EAST ARROW"),
   (0x2929, "aSOUTH EAST ARROW AND SOUTH WEST ARROWbWEST ARROW AND NORTH WEST ARROW"),
   (0x292B, "aRISING DIAGONAL CROSSING FALLING DIAGONAL"),
   (0x292C, "aFALLING DIAGONAL CROSSING RISING DIAGONAL"),
   (0x292D, "aSOUTH EAST ARROW CROSSING NORTH EAST ARROW"),
   (0x292E, "aNORTH EAST ARROW CROSSING SOUTH EAST ARROW"),
   (0x292F, "aFALLING DIAGONAL CROSSING NORTH EAST ARROW"),
   (0x2930, "aRISING DIAGONAL CROSSING SOUTH EAST ARROW"),
   (0x2931, "aNORTH EAST ARROW CROSSING NORTH WEST ARROW"),
   (0x2932, "bWEST ARROW CROSSING NORTH EAST ARROWaWAVE ARROW POINTING DIRECTLY RIGHT"),
   (0x2934, "aARROW POINTING RIGHTWARDS THEN CURVING UPWARDSfDOWNWARDS"),
   (0x2936, "cDOWNWARDS THEN CURVING LEFTWARDSfRIGHTWARDSaRIGHT-SIDE ARC CLOCKWISE ARROW"),
   (0x2939, "aLEFT-SIDE ARC ANTICLOCKWISE ARROWaTOP ARC ANTICLOCKWISE ARROW"),
   (0x293B, "aBOTTOM ARC ANTICLOCKWISE ARROWaTOP ARC CLOCKWISE ARROW WITH MINUS"),
   (0x293D, "cANTICLOCKWISE ARROW WITH PLUSaLOWER RIGHT SEMICIRCULAR CLOCKWISE ARROW"),
   (0x293F, "bLEFT SEMICIRCULAR ANTICLOCKWISE ARROWaANTICLOCKWISE CLOSED CIRCLE ARROW"),
   (0x2941, "aCLOCKWISE CLOSED CIRCLE ARROWaRIGHTWARDS ARROW ABOVE SHORT LEFTWARDS ARROW"),
   (0x2943, "aLEFTWARDS ARROW ABOVE SHORT RIGHTWARDS ARROW"),
   (0x2944, "aSHORT RIGHTWARDS ARROW ABOVE LEFTWARDS ARROWaRIGHTWARDS ARROW WITH PLUS BELOW"),
   (0x2946, "aLEFTWARDS ARROW WITH PLUS BELOWaRIGHTWARDS ARROW THROUGH X"),
   (0x2948, "aLEFT RIGHT ARROW THROUGH SMALL CIRCLE"),
   (0x2949, "aUPWARDS TWO-HEADED ARROW FROM SMALL CIRCLE"),
   (0x294A, "aLEFT BARB UP RIGHT BARB DOWN HARPOONcDOWN RIGHT BARB UP HARPOON"),
   (0x294C, "aUP BARB RIGHT DOWN BARB LEFT HARPOONcLEFT DOWN BARB RIGHT HARPOON"),
   (0x294E, "aLEFT BARB UP RIGHT BARB UP HARPOONaUP BARB RIGHT DOWN BARB RIGHT HARPOON"),
   (0x2950, "aLEFT BARB DOWN RIGHT BARB DOWN HARPOONaUP BARB LEFT DOWN BARB LEFT HARPOON"),
   (0x2952, "aLEFTWARDS HARPOON WITH BARB UP TO BARaRIGHTWARDS HARPOON WITH BARB UP TO BAR"),
   (0x2954, "aUPWARDS HARPOON WITH BARB RIGHT TO BAR"),
   (0x2955, "aDOWNWARDS HARPOON WITH BARB RIGHT TO BAR"),
   (0x2956, "aLEFTWARDS HARPOON WITH BARB DOWN TO BAR"),
   (0x2957, "aRIGHTWARDS HARPOON WITH BARB DOWN TO BAR"),
   (0x2958, "aUPWARDS HARPOON WITH BARB LEFT TO BARaDOWNWARDS HARPOON WITH BARB LEFT TO BAR"),
   (0x295A, "aLEFTWARDS HARPOON WITH BARB UP FROM BAR"),
   (0x295B, "aRIGHTWARDS HARPOON WITH BARB UP FROM BAR"),
   (0x295C, "aUPWARDS HARPOON WITH BARB RIGHT FROM BAR"),
   (0x295D, "aDOWNWARDS HARPOON WITH BARB RIGHT FROM BAR"),
   (0x295E, "aLEFTWARDS HARPOON WITH BARB DOWN FROM BAR"),
   (0x295F, "aRIGHTWARDS HARPOON WITH BARB DOWN FROM BAR"),
   (0x2960, "aUPWARDS HARPOON WITH BARB LEFT FROM BAR"),
   (0x2961, "aDOWNWARDS HARPOON WITH BARB LEFT FROM BAR"),
   (0x2962, "aLEFTWARDS HARPOON WITH BARB UP ABOVE LEFTWARDS HARPOON WITH BARB DOWN"),
   (0x2963, "aUPWARDS HARPOON WITH BARB LEFT BESIDE UPWARDS HARPOON WITH BARB RIGHT"),
   (0x2964, "aRIGHTWARDS HARPOON WITH BARB UP ABOVE RIGHTWARDS HARPOON WITH BARB DOWN"),
   (0x2965, "aDOWNWARDS HARPOON WITH BARB LEFT BESIDE DOWNWARDS HARPOON WITH BARB RIGHT"),
   (0x2966, "aLEFTWARDS HARPOON WITH BARB UP ABOVE RIGHTWARDS HARPOON WITH BARB UP"),
   (0x2967, "eDOWN ABOVE RIGHTWARDS HARPOON WITH BARB DOWN"),
   (0x2968, "aRIGHTWARDS HARPOON WITH BARB UP ABOVE LEFTWARDS HARPOON WITH BARB UP"),
   (0x2969, "eDOWN ABOVE LEFTWARDS HARPOON WITH BARB DOWN"),
   (0x296A, "aLEFTWARDS HARPOON WITH BARB UP ABOVE LONG DASHeDOWN BELOW LONG DASH"),
   (0x296C, "aRIGHTWARDS HARPOON WITH BARB UP ABOVE LONG DASHeDOWN BELOW LONG DASH"),
   (0x296E, "aUPWARDS HARPOON WITH BARB LEFT BESIDE DOWNWARDS HARPOON WITH BARB RIGHT"),
   (0x296F, "aDOWNWARDS HARPOON WITH BARB LEFT BESIDE UPWARDS HARPOON WITH BARB RIGHT"),
   (0x2970, "aRIGHT DOUBLE ARROW WITH ROUNDED HEADaEQUALS SIGN ABOVE RIGHTWARDS ARROW"),
   (0x2972, "aTILDE OPERATOR ABOVE RIGHTWARDS ARROWaLEFTWARDS ARROW ABOVE TILDE OPERATOR"),
   (0x2974, "aRIGHTWARDS ARROW ABOVE TILDE OPERATORdALMOST EQUAL TO"),
   (0x2976, "aLESS-THAN ABOVE LEFTWARDS ARROWaLEFTWARDS ARROW THROUGH LESS-THAN"),
   (0x2978, "aGREATER-THAN ABOVE RIGHTWARDS ARROWaSUBSET ABOVE RIGHTWARDS ARROW"),
   (0x297A, "aLEFTWARDS ARROW THROUGH SUBSETaSUPERSET ABOVE LEFTWARDS ARROWaLEFT FISH TAIL"),
   (0x297D, "aRIGHT FISH TAILaUP FISH TAILaDOWN FISH TAILaTRIPLE VERTICAL BAR DELIMITER"),
   (0x2981, "aZ NOTATION SPOTcTYPE COLONaLEFT WHITE CURLY BRACKETaRIGHT WHITE CURLY BRACKET"),
   (0x2985, "aLEFT WHITE PARENTHESISaRIGHT WHITE PARENTHESISaZ NOTATION LEFT IMAGE BRACKET"),
   (0x2988, "cRIGHT IMAGE BRACKETcLEFT BINDING BRACKETcRIGHT BINDING BRACKET"),
   (0x298B, "aLEFT SQUARE BRACKET WITH UNDERBARaRIGHT SQUARE BRACKET WITH UNDERBAR"),
   (0x298D, "aLEFT SQUARE BRACKET WITH TICK IN TOP CORNER"),
   (0x298E, "aRIGHT SQUARE BRACKET WITH TICK IN BOTTOM CORNER"),
   (0x298F, "aLEFT SQUARE BRACKET WITH TICK IN BOTTOM CORNER"),
   (0x2990, "aRIGHT SQUARE BRACKET WITH TICK IN TOP CORNERaLEFT ANGLE BRACKET WITH DOT"),
   (0x2992, "aRIGHT ANGLE BRACKET WITH DOTaLEFT ARC LESS-THAN BRACKET"),
   (0x2994, "aRIGHT ARC GREATER-THAN BRACKETaDOUBLE LEFT ARC GREATER-THAN BRACKET"),
   (0x2996, "bRIGHT ARC LESS-THAN BRACKETaLEFT BLACK TORTOISE SHELL BRACKET"),
   (0x2998, "aRIGHT BLACK TORTOISE SHELL BRACKETaDOTTED FENCEaVERTICAL ZIGZAG LINE"),
   (0x299B, "aMEASURED ANGLE OPENING LEFTaRIGHT ANGLE VARIANT WITH SQUARE"),
   (0x299D, "aMEASURED RIGHT ANGLE WITH DOTaANGLE WITH S INSIDEaACUTE ANGLE"),
   (0x29A0, "aSPHERICAL ANGLE OPENING LEFTdUPaTURNED ANGLEaREVERSED ANGLE"),
   (0x29A4, "aANGLE WITH UNDERBARaREVERSED ANGLE WITH UNDERBARaOBLIQUE ANGLE OPENING UP"),
   (0x29A7, "dDOWNaMEASURED ANGLE WITH OPEN ARM ENDING IN ARROW POINTING UP AND RIGHTlLEFT"),
   (0x29AA, "jDOWN AND RIGHTlLEFTjRIGHT AND UPjLEFT AND UPjRIGHT AND DOWNjLEFT AND DOWN"),
   (0x29B0, "aREVERSED EMPTY SETaEMPTY SET WITH OVERBARdSMALL CIRCLE ABOVE"),
   (0x29B3, "dRIGHT ARROW ABOVEdLEFT ARROW ABOVEaCIRCLE WITH HORIZONTAL BAR"),
   (0x29B6, "aCIRCLED VERTICAL BARbPARALLELbREVERSE SOLIDUSbPERPENDICULAR"),
   (0x29BA, "aCIRCLE DIVIDED BY HORIZONTAL BAR AND TOP HALF DIVIDED BY VERTICAL BAR"),
   (0x29BB, "bWITH SUPERIMPOSED XaCIRCLED ANTICLOCKWISE-ROTATED DIVISION SIGN"),
   (0x29BD, "aUP ARROW THROUGH CIRCLEaCIRCLED WHITE BULLETbBULLETbLESS-THANbGREATER-THAN"),
   (0x29C2, "aCIRCLE WITH SMALL CIRCLE TO THE RIGHTcTWO HORIZONTAL STROKES TO THE RIGHT"),
   (0x29C4, "aSQUARED RISING DIAGONAL SLASHbFALLING DIAGONAL SLASHbASTERISKbSMALL CIRCLE"),
   (0x29C8, "bSQUAREaTWO JOINED SQUARESaTRIANGLE WITH DOT ABOVEcUNDERBARaS IN TRIANGLE"),
   (0x29CD, "aTRIANGLE WITH SERIFS AT BOTTOMaRIGHT TRIANGLE ABOVE LEFT TRIANGLE"),
   (0x29CF, "aLEFT TRIANGLE BESIDE VERTICAL BARaVERTICAL BAR BESIDE RIGHT TRIANGLE"),
   (0x29D1, "aBOWTIE WITH LEFT HALF BLACKcRIGHT HALF BLACKaBLACK BOWTIE"),
   (0x29D4, "aTIMES WITH LEFT HALF BLACKcRIGHT HALF BLACKaWHITE HOURGLASSaBLACK HOURGLASS"),
   (0x29D8, "aLEFT WIGGLY FENCEaRIGHT WIGGLY FENCEaLEFT DOUBLE WIGGLY FENCE"),
   (0x29DB, "aRIGHT DOUBLE WIGGLY FENCEaINCOMPLETE INFINITYaTIE OVER INFINITY"),
   (0x29DE, "aINFINITY NEGATED WITH VERTICAL BARaDOUBLE-ENDED MULTIMAP"),
   (0x29E0, "aSQUARE WITH CONTOURED OUTLINEaINCREASES ASaSHUFFLE PRODUCT"),
   (0x29E3, "aEQUALS SIGN AND SLANTED PARALLELePARALLEL WITH TILDE ABOVE"),
   (0x29E5, "aIDENTICAL TO AND SLANTED PARALLELaGLEICH STARKaTHERMODYNAMIC"),
   (0x29E8, "aDOWN-POINTING TRIANGLE WITH LEFT HALF BLACKeRIGHT HALF BLACK"),
   (0x29EA, "aBLACK DIAMOND WITH DOWN ARROWbLOZENGEaWHITE CIRCLE WITH DOWN ARROW"),
   (0x29ED, "aBLACK CIRCLE WITH DOWN ARROWaERROR-BARRED WHITE SQUAREcBLACK SQUARE"),
   (0x29F0, "cWHITE DIAMONDcBLACK DIAMONDcWHITE CIRCLEcBLACK CIRCLEaRULE-DELAYED"),
   (0x29F5, "aREVERSE SOLIDUS OPERATORaSOLIDUS WITH OVERBAR"),
   (0x29F7, "aREVERSE SOLIDUS WITH HORIZONTAL STROKEaBIG SOLIDUSbREVERSE SOLIDUS"),
   (0x29FA, "aDOUBLE PLUSaTRIPLE PLUSaLEFT-POINTING CURVED ANGLE BRACKET"),
   (0x29FD, "aRIGHT-POINTING CURVED ANGLE BRACKETaTINYaMINYaN-ARY CIRCLED DOT OPERATOR"),
   (0x2A01, "dPLUS OPERATORdTIMES OPERATORcUNION OPERATOR WITH DOTfPLUS"),
   (0x2A05, "cSQUARE INTERSECTION OPERATORdUNION OPERATORaTWO LOGICAL AND OPERATOR"),
   (0x2A08, "cOR OPERATORaN-ARY TIMES OPERATORaMODULO TWO SUMaSUMMATION WITH INTEGRAL"),
   (0x2A0C, "aQUADRUPLE INTEGRAL OPERATORaFINITE PART INTEGRALaINTEGRAL WITH DOUBLE STROKE"),
   (0x2A0F, "bAVERAGE WITH SLASHaCIRCULATION FUNCTIONaANTICLOCKWISE INTEGRATION"),
   (0x2A12, "aLINE INTEGRATION WITH RECTANGULAR PATH AROUND POLE"),
   (0x2A13, "dSEMICIRCULAR PATH AROUND POLEcNOT INCLUDING THE POLE"),
   (0x2A15, "aINTEGRAL AROUND A POINT OPERATORaQUATERNION INTEGRAL OPERATOR"),
   (0x2A17, "aINTEGRAL WITH LEFTWARDS ARROW WITH HOOKcTIMES SIGNcINTERSECTIONcUNIONcOVERBAR"),
   (0x2A1C, "cUNDERBARaJOINaLARGE LEFT TRIANGLE OPERATORaZ NOTATION SCHEMA COMPOSITION"),
   (0x2A20, "dPIPINGdPROJECTIONaPLUS SIGN WITH SMALL CIRCLE ABOVEdCIRCUMFLEX ACCENT ABOVE"),
   (0x2A24, "dTILDE ABOVEdDOT BELOWdTILDE BELOWdSUBSCRIPT TWOdBLACK TRIANGLE"),
   (0x2A29, "aMINUS SIGN WITH COMMA ABOVEdDOT BELOWdFALLING DOTSdRISING DOTS"),
   (0x2A2D, "aPLUS SIGN IN LEFT HALF CIRCLEdRIGHT HALF CIRCLEaVECTOR OR CROSS PRODUCT"),
   (0x2A30, "aMULTIPLICATION SIGN WITH DOT ABOVEdUNDERBAR"),
   (0x2A32, "aSEMIDIRECT PRODUCT WITH BOTTOM CLOSEDaSMASH PRODUCT"),
   (0x2A34, "aMULTIPLICATION SIGN IN LEFT HALF CIRCLEdRIGHT HALF CIRCLE"),
   (0x2A36, "aCIRCLED MULTIPLICATION SIGN WITH CIRCUMFLEX ACCENT"),
   (0x2A37, "aMULTIPLICATION SIGN IN DOUBLE CIRCLEaCIRCLED DIVISION SIGN"),
   (0x2A39, "aPLUS SIGN IN TRIANGLEaMINUS SIGN IN TRIANGLEaMULTIPLICATION SIGN IN TRIANGLE"),
   (0x2A3C, "aINTERIOR PRODUCTaRIGHTHAND INTERIOR PRODUCTaZ NOTATION RELATIONAL COMPOSITION"),
   (0x2A3F, "aAMALGAMATION OR COPRODUCTaINTERSECTION WITH DOTaUNION WITH MINUS SIGNcOVERBAR"),
   (0x2A43, "aINTERSECTION WITH OVERBARcLOGICAL ANDaUNION WITH LOGICAL OR"),
   (0x2A46, "bABOVE INTERSECTIONaINTERSECTION ABOVE UNION"),
   (0x2A48, "aUNION ABOVE BAR ABOVE INTERSECTIONaINTERSECTION ABOVE BAR ABOVE UNION"),
   (0x2A4A, "aUNION BESIDE AND JOINED WITH UNION"),
   (0x2A4B, "aINTERSECTION BESIDE AND JOINED WITH INTERSECTIONaCLOSED UNION WITH SERIFS"),
   (0x2A4D, "bINTERSECTION WITH SERIFSaDOUBLE SQUARE INTERSECTIONcUNION"),
   (0x2A50, "aCLOSED UNION WITH SERIFS AND SMASH PRODUCTaLOGICAL AND WITH DOT ABOVE"),
   (0x2A52, "bOR WITH DOT ABOVEaDOUBLE LOGICAL ANDcORaTWO INTERSECTING LOGICAL ANDdOR"),
   (0x2A57, "aSLOPING LARGE ORcANDaLOGICAL OR OVERLAPPING LOGICAL ANDbAND WITH MIDDLE STEM"),
   (0x2A5B, "bOR WITH MIDDLE STEMbAND WITH HORIZONTAL DASHbOR WITH HORIZONTAL DASH"),
   (0x2A5E, "bAND WITH DOUBLE OVERBARdUNDERBARdDOUBLE UNDERBARaSMALL VEE WITH UNDERBAR"),
   (0x2A62, "aLOGICAL OR WITH DOUBLE OVERBAReUNDERBARaZ NOTATION DOMAIN ANTIRESTRICTION"),
   (0x2A65, "cRANGE ANTIRESTRICTIONaEQUALS SIGN WITH DOT BELOWaIDENTICAL WITH DOT ABOVE"),
   (0x2A68, "aTRIPLE HORIZONTAL BAR WITH DOUBLE VERTICAL STROKEeTRIPLE VERTICAL STROKE"),
   (0x2A6A, "aTILDE OPERATOR WITH DOT ABOVEdRISING DOTSaSIMILAR MINUS SIMILAR"),
   (0x2A6D, "aCONGRUENT WITH DOT ABOVEaEQUALS WITH ASTERISK"),
   (0x2A6F, "aALMOST EQUAL TO WITH CIRCUMFLEX ACCENTaAPPROXIMATELY EQUAL OR EQUAL TO"),
   (0x2A71, "aEQUALS SIGN ABOVE PLUS SIGNaPLUS SIGN ABOVE EQUALS SIGN"),
   (0x2A73, "aEQUALS SIGN ABOVE TILDE OPERATORaDOUBLE COLON EQUAL"),
   (0x2A75, "aTWO CONSECUTIVE EQUALS SIGNSaTHREE CONSECUTIVE EQUALS SIGNS"),
   (0x2A77, "aEQUALS SIGN WITH TWO DOTS ABOVE AND TWO DOTS BELOW"),
   (0x2A78, "aEQUIVALENT WITH FOUR DOTS ABOVEaLESS-THAN WITH CIRCLE INSIDE"),
   (0x2A7A, "aGREATER-THAN WITH CIRCLE INSIDEaLESS-THAN WITH QUESTION MARK ABOVE"),
   (0x2A7C, "aGREATER-THAN WITH QUESTION MARK ABOVEaLESS-THAN OR SLANTED EQUAL TO"),
   (0x2A7E, "aGREATER-THAN OR SLANTED EQUAL TO"),
   (0x2A7F, "aLESS-THAN OR SLANTED EQUAL TO WITH DOT INSIDE"),
   (0x2A80, "aGREATER-THAN OR SLANTED EQUAL TO WITH DOT INSIDE"),
   (0x2A81, "aLESS-THAN OR SLANTED EQUAL TO WITH DOT ABOVE"),
   (0x2A82, "aGREATER-THAN OR SLANTED EQUAL TO WITH DOT ABOVE"),
   (0x2A83, "aLESS-THAN OR SLANTED EQUAL TO WITH DOT ABOVE RIGHT"),
   (0x2A84, "aGREATER-THAN OR SLANTED EQUAL TO WITH DOT ABOVE LEFTaLESS-THAN OR APPROXIMATE"),
   (0x2A86, "aGREATER-THAN OR APPROXIMATEaLESS-THAN AND SINGLE-LINE NOT EQUAL TO"),
   (0x2A88, "aGREATER-THAN AND SINGLE-LINE NOT EQUAL TOaLESS-THAN AND NOT APPROXIMATE"),
   (0x2A8A, "aGREATER-THAN AND NOT APPROXIMATE"),
   (0x2A8B, "aLESS-THAN ABOVE DOUBLE-LINE EQUAL ABOVE GREATER-THAN"),
   (0x2A8C, "aGREATER-THAN ABOVE DOUBLE-LINE EQUAL ABOVE LESS-THAN"),
   (0x2A8D, "aLESS-THAN ABOVE SIMILAR OR EQUALaGREATER-THAN ABOVE SIMILAR OR EQUAL"),
   (0x2A8F, "aLESS-THAN ABOVE SIMILAR ABOVE GREATER-THAN"),
   (0x2A90, "aGREATER-THAN ABOVE SIMILAR ABOVE LESS-THAN"),
   (0x2A91, "aLESS-THAN ABOVE GREATER-THAN ABOVE DOUBLE-LINE EQUAL"),
   (0x2A92, "aGREATER-THAN ABOVE LESS-THAN ABOVE DOUBLE-LINE EQUAL"),
   (0x2A93, "aLESS-THAN ABOVE SLANTED EQUAL ABOVE GREATER-THAN ABOVE SLANTED EQUAL"),
   (0x2A94, "aGREATER-THAN ABOVE SLANTED EQUAL ABOVE LESS-THAN ABOVE SLANTED EQUAL"),
   (0x2A95, "aSLANTED EQUAL TO OR LESS-THANeGREATER-THANeLESS-THAN WITH DOT INSIDE"),
   (0x2A98, "eGREATER-THAN WITH DOT INSIDEaDOUBLE-LINE EQUAL TO OR LESS-THANfGREATER-THAN"),
   (0x2A9B, "cSLANTED EQUAL TO OR LESS-THANgGREATER-THANaSIMILAR OR LESS-THANcGREATER-THAN"),
   (0x2A9F, "bABOVE LESS-THAN ABOVE EQUALS SIGNcGREATER-THAN ABOVE EQUALS SIGN"),
   (0x2AA1, "aDOUBLE NESTED LESS-THANcGREATER-THANcLESS-THAN WITH UNDERBAR"),
   (0x2AA4, "aGREATER-THAN OVERLAPPING LESS-THANcBESIDE LESS-THANaLESS-THAN CLOSED BY CURVE"),
   (0x2AA7, "aGREATER-THAN CLOSED BY CURVEaLESS-THAN CLOSED BY CURVE ABOVE SLANTED EQUAL"),
   (0x2AA9, "aGREATER-THAN CLOSED BY CURVE ABOVE SLANTED EQUALaSMALLER THANaLARGER THAN"),
   (0x2AAC, "aSMALLER THAN OR EQUAL TOaLARGER THAN OR EQUAL TOaEQUALS SIGN WITH BUMPY ABOVE"),
   (0x2AAF, "aPRECEDES ABOVE SINGLE-LINE EQUALS SIGNaSUCCEEDS ABOVE SINGLE-LINE EQUALS SIGN"),
   (0x2AB1, "aPRECEDES ABOVE SINGLE-LINE NOT EQUAL TO"),
   (0x2AB2, "aSUCCEEDS ABOVE SINGLE-LINE NOT EQUAL TOaPRECEDES ABOVE EQUALS SIGN"),
   (0x2AB4, "aSUCCEEDS ABOVE EQUALS SIGNaPRECEDES ABOVE NOT EQUAL TO"),
   (0x2AB6, "aSUCCEEDS ABOVE NOT EQUAL TOaPRECEDES ABOVE ALMOST EQUAL TO"),
   (0x2AB8, "aSUCCEEDS ABOVE ALMOST EQUAL TOaPRECEDES ABOVE NOT ALMOST EQUAL TO"),
   (0x2ABA, "aSUCCEEDS ABOVE NOT ALMOST EQUAL TOaDOUBLE PRECEDESbSUCCEEDSaSUBSET WITH DOT"),
   (0x2ABE, "aSUPERSET WITH DOTaSUBSET WITH PLUS SIGN BELOWaSUPERSET WITH PLUS SIGN BELOW"),
   (0x2AC1, "aSUBSET WITH MULTIPLICATION SIGN BELOWaSUPERSET WITH MULTIPLICATION SIGN BELOW"),
   (0x2AC3, "aSUBSET OF OR EQUAL TO WITH DOT ABOVEaSUPERSET OF OR EQUAL TO WITH DOT ABOVE"),
   (0x2AC5, "aSUBSET OF ABOVE EQUALS SIGNaSUPERSET OF ABOVE EQUALS SIGN"),
   (0x2AC7, "aSUBSET OF ABOVE TILDE OPERATORaSUPERSET OF ABOVE TILDE OPERATOR"),
   (0x2AC9, "aSUBSET OF ABOVE ALMOST EQUAL TOaSUPERSET OF ABOVE ALMOST EQUAL TO"),
   (0x2ACB, "aSUBSET OF ABOVE NOT EQUAL TOaSUPERSET OF ABOVE NOT EQUAL TO"),
   (0x2ACD, "aSQUARE LEFT OPEN BOX OPERATORbRIGHT OPEN BOX OPERATORaCLOSED SUBSETbSUPERSET"),
   (0x2AD1, "bSUBSET OR EQUAL TObSUPERSET OR EQUAL TOaSUBSET ABOVE SUPERSET"),
   (0x2AD4, "aSUPERSET ABOVE SUBSETaSUBSET ABOVE SUBSETaSUPERSET ABOVE SUPERSET"),
   (0x2AD7, "bBESIDE SUBSETcAND JOINED BY DASH WITH SUBSETaELEMENT OF OPENING DOWNWARDS"),
   (0x2ADA, "aPITCHFORK WITH TEE TOPaTRANSVERSAL INTERSECTIONaFORKINGaNONFORKING"),
   (0x2ADE, "aSHORT LEFT TACKbDOWN TACKbUP TACKaPERPENDICULAR WITH S"),
   (0x2AE2, "aVERTICAL BAR TRIPLE RIGHT TURNSTILEaDOUBLE VERTICAL BAR LEFT TURNSTILE"),
   (0x2AE4, "aVERTICAL BAR DOUBLE LEFT TURNSTILEaDOUBLE VERTICAL BAR DOUBLE LEFT TURNSTILE"),
   (0x2AE6, "aLONG DASH FROM LEFT MEMBER OF DOUBLE VERTICALaSHORT DOWN TACK WITH OVERBAR"),
   (0x2AE8, "bUP TACK WITH UNDERBARdABOVE SHORT DOWN TACKaDOUBLE DOWN TACKbUP TACK"),
   (0x2AEC, "bSTROKE NOT SIGNaREVERSED DOUBLE STROKE NOT SIGN"),
   (0x2AEE, "aDOES NOT DIVIDE WITH REVERSED NEGATION SLASHaVERTICAL LINE WITH CIRCLE ABOVE"),
   (0x2AF0, "eBELOWaDOWN TACK WITH CIRCLE BELOWaPARALLEL WITH HORIZONTAL STROKE"),
   (0x2AF3, "cTILDE OPERATORaTRIPLE VERTICAL BAR BINARY RELATIONdWITH HORIZONTAL STROKE"),
   (0x2AF6, "bCOLON OPERATORbNESTED LESS-THANcGREATER-THAN"),
   (0x2AF9, "aDOUBLE-LINE SLANTED LESS-THAN OR EQUAL TOdGREATER-THAN OR EQUAL TO"),
   (0x2AFB, "aTRIPLE SOLIDUS BINARY RELATIONaLARGE TRIPLE VERTICAL BAR OPERATOR"),
   (0x2AFD, "aDOUBLE SOLIDUS OPERATORaWHITE VERTICAL BARaN-ARY WHITE VERTICAL BAR"),
   (0x2B00, "aNORTH EAST WHITE ARROWbWEST WHITE ARROWaSOUTH EAST WHITE ARROW"),
   (0x2B03, "bWEST WHITE ARROWaLEFT RIGHT WHITE ARROWaLEFTWARDS BLACK ARROW"),
   (0x2B06, "aUPWARDS BLACK ARROWaDOWNWARDS BLACK ARROWaNORTH EAST BLACK ARROW"),
   (0x2B09, "bWEST BLACK ARROWaSOUTH EAST BLACK ARROWbWEST BLACK ARROW"),
   (0x2B0C, "aLEFT RIGHT BLACK ARROWaUP DOWN BLACK ARROW"),
   (0x2B0E, "aRIGHTWARDS ARROW WITH TIP DOWNWARDSeUPWARDS"),
   (0x2B10, "aLEFTWARDS ARROW WITH TIP DOWNWARDSeUPWARDSaSQUARE WITH TOP HALF BLACK"),
   (0x2B13, "cBOTTOM HALF BLACKcUPPER RIGHT DIAGONAL HALF BLACK"),
   (0x2B15, "cLOWER LEFT DIAGONAL HALF BLACKaDIAMOND WITH LEFT HALF BLACKcRIGHT HALF BLACK"),
   (0x2B18, "cTOP HALF BLACKcBOTTOM HALF BLACKaDOTTED SQUAREaBLACK LARGE SQUARE"),
   (0x2B1C, "aWHITE LARGE SQUAREaBLACK VERY SMALL SQUAREaWHITE VERY SMALL SQUARE"),
   (0x2B1F, "aBLACK PENTAGONaWHITE PENTAGONbHEXAGONaBLACK HEXAGONaHORIZONTAL BLACK HEXAGON"),
   (0x2B24, "aBLACK LARGE CIRCLEbMEDIUM DIAMONDaWHITE MEDIUM DIAMONDaBLACK MEDIUM LOZENGE"),
   (0x2B28, "aWHITE MEDIUM LOZENGEaBLACK SMALL DIAMONDcLOZENGEaWHITE SMALL LOZENGE"),
   (0x2B2C, "aBLACK HORIZONTAL ELLIPSEaWHITE HORIZONTAL ELLIPSEaBLACK VERTICAL ELLIPSE"),
   (0x2B2F, "aWHITE VERTICAL ELLIPSEaLEFT ARROW WITH SMALL CIRCLEaTHREE LEFTWARDS ARROWS"),
   (0x2B32, "aLEFT ARROW WITH CIRCLED PLUSaLONG LEFTWARDS SQUIGGLE ARROW"),
   (0x2B34, "aLEFTWARDS TWO-HEADED ARROW WITH VERTICAL STROKEfDOUBLE VERTICAL STROKE"),
   (0x2B36, "eFROM BARdTRIPLE DASH ARROWbARROW WITH DOTTED STEMdTAIL WITH VERTICAL STROKE"),
   (0x2B3A, "fDOUBLE VERTICAL STROKEbTWO-HEADED ARROW WITH TAILfTAIL WITH VERTICAL STROKE"),
   (0x2B3D, "hDOUBLE VERTICAL STROKEbARROW THROUGH XaWAVE ARROW POINTING DIRECTLY LEFT"),
   (0x2B40, "aEQUALS SIGN ABOVE LEFTWARDS ARROW"),
   (0x2B41, "aREVERSE TILDE OPERATOR ABOVE LEFTWARDS ARROW"),
   (0x2B42, "aLEFTWARDS ARROW ABOVE REVERSE ALMOST EQUAL TO"),
   (0x2B43, "aRIGHTWARDS ARROW THROUGH GREATER-THANdSUPERSETaLEFTWARDS QUADRUPLE ARROW"),
   (0x2B46, "aRIGHTWARDS QUADRUPLE ARROWaREVERSE TILDE OPERATOR ABOVE RIGHTWARDS ARROW"),
   (0x2B48, "aRIGHTWARDS ARROW ABOVE REVERSE ALMOST EQUAL TO"),
   (0x2B49, "aTILDE OPERATOR ABOVE LEFTWARDS ARROWaLEFTWARDS ARROW ABOVE ALMOST EQUAL TO"),
   (0x2B4B, "dREVERSE TILDE OPERATORaRIGHTWARDS ARROW ABOVE REVERSE TILDE OPERATOR"),
   (0x2B4D, "aDOWNWARDS TRIANGLE-HEADED ZIGZAG ARROWaSHORT SLANTED NORTH ARROW"),
   (0x2B4F, "bBACKSLANTED SOUTH ARROWaWHITE MEDIUM STARaBLACK SMALL STARaWHITE SMALL STAR"),
   (0x2B53, "aBLACK RIGHT-POINTING PENTAGONaWHITE RIGHT-POINTING PENTAGON"),
   (0x2B55, "aHEAVY LARGE CIRCLEbOVAL WITH OVAL INSIDEbCIRCLE WITH CIRCLE INSIDEbCIRCLE"),
   (0x2B59, "bCIRCLED SALTIREaSLANTED NORTH ARROW WITH HOOKED HEAD"),
   (0x2B5B, "aBACKSLANTED SOUTH ARROW WITH HOOKED TAIL"),
   (0x2B5C, "aSLANTED NORTH ARROW WITH HORIZONTAL TAIL"),
   (0x2B5D, "aBACKSLANTED SOUTH ARROW WITH HORIZONTAL TAIL"),
   (0x2B5E, "aBENT ARROW POINTING DOWNWARDS THEN NORTH EAST"),
   (0x2B5F, "aSHORT BENT ARROW POINTING DOWNWARDS THEN NORTH EAST"),
   (0x2B60, "aLEFTWARDS TRIANGLE-HEADED ARROWaUPWARDS TRIANGLE-HEADED ARROW"),
   (0x2B62, "aRIGHTWARDS TRIANGLE-HEADED ARROWaDOWNWARDS TRIANGLE-HEADED ARROW"),
   (0x2B64, "aLEFT RIGHT TRIANGLE-HEADED ARROWaUP DOWN TRIANGLE-HEADED ARROW"),
   (0x2B66, "aNORTH WEST TRIANGLE-HEADED ARROWbEAST TRIANGLE-HEADED ARROW"),
   (0x2B68, "aSOUTH EAST TRIANGLE-HEADED ARROWbWEST TRIANGLE-HEADED ARROW"),
   (0x2B6A, "aLEFTWARDS TRIANGLE-HEADED DASHED ARROWaUPWARDS TRIANGLE-HEADED DASHED ARROW"),
   (0x2B6C, "aRIGHTWARDS TRIANGLE-HEADED DASHED ARROW"),
   (0x2B6D, "aDOWNWARDS TRIANGLE-HEADED DASHED ARROW"),
   (0x2B6E, "aCLOCKWISE TRIANGLE-HEADED OPEN CIRCLE ARROW"),
   (0x2B6F, "aANTICLOCKWISE TRIANGLE-HEADED OPEN CIRCLE ARROW"),
   (0x2B70, "aLEFTWARDS TRIANGLE-HEADED ARROW TO BARaUPWARDS TRIANGLE-HEADED ARROW TO BAR"),
   (0x2B72, "aRIGHTWARDS TRIANGLE-HEADED ARROW TO BAR"),
   (0x2B73, "aDOWNWARDS TRIANGLE-HEADED ARROW TO BAR"),
   (0x2B76, "aNORTH WEST TRIANGLE-HEADED ARROW TO BARbEAST TRIANGLE-HEADED ARROW TO BAR"),
   (0x2B78, "aSOUTH EAST TRIANGLE-HEADED ARROW TO BARbWEST TRIANGLE-HEADED ARROW TO BAR"),
   (0x2B7A, "aLEFTWARDS TRIANGLE-HEADED ARROW WITH DOUBLE HORIZONTAL STROKE"),
   (0x2B7B, "aUPWARDS TRIANGLE-HEADED ARROW WITH DOUBLE HORIZONTAL STROKE"),
   (0x2B7C, "aRIGHTWARDS TRIANGLE-HEADED ARROW WITH DOUBLE HORIZONTAL STROKE"),
   (0x2B7D, "aDOWNWARDS TRIANGLE-HEADED ARROW WITH DOUBLE HORIZONTAL STROKE"),
   (0x2B7E, "aHORIZONTAL TAB KEYaVERTICAL TAB KEY"),
   (0x2B80, "aLEFTWARDS TRIANGLE-HEADED ARROW OVER RIGHTWARDS TRIANGLE-HEADED ARROW"),
   (0x2B81, "aUPWARDS TRIANGLE-HEADED ARROW LEFTWARDS OF DOWNWARDS TRIANGLE-HEADED ARROW"),
   (0x2B82, "aRIGHTWARDS TRIANGLE-HEADED ARROW OVER LEFTWARDS TRIANGLE-HEADED ARROW"),
   (0x2B83, "aDOWNWARDS TRIANGLE-HEADED ARROW LEFTWARDS OF UPWARDS TRIANGLE-HEADED ARROW"),
   (0x2B84, "aLEFTWARDS TRIANGLE-HEADED PAIRED ARROWSaUPWARDS TRIANGLE-HEADED PAIRED ARROWS"),
   (0x2B86, "aRIGHTWARDS TRIANGLE-HEADED PAIRED ARROWS"),
   (0x2B87, "aDOWNWARDS TRIANGLE-HEADED PAIRED ARROWSaLEFTWARDS BLACK CIRCLED WHITE ARROW"),
   (0x2B89, "aUPWARDS BLACK CIRCLED WHITE ARROWaRIGHTWARDS BLACK CIRCLED WHITE ARROW"),
   (0x2B8B, "aDOWNWARDS BLACK CIRCLED WHITE ARROW"),
   (0x2B8C, "aANTICLOCKWISE TRIANGLE-HEADED RIGHT U-SHAPED ARROWdBOTTOM U-SHAPED ARROW"),
   (0x2B8E, "dLEFT U-SHAPED ARROWdTOP U-SHAPED ARROWaRETURN LEFTbRIGHTaNEWLINE LEFTbRIGHT"),
   (0x2B94, "aFOUR CORNER ARROWS CIRCLING ANTICLOCKWISEaRIGHTWARDS BLACK ARROW"),
   (0x2B97, "aSYMBOL FOR TYPE A ELECTRONICS"),
   (0x2B98, "aTHREE-D TOP-LIGHTED LEFTWARDS EQUILATERAL ARROWHEAD"),
   (0x2B99, "cRIGHT-LIGHTED UPWARDS EQUILATERAL ARROWHEAD"),
   (0x2B9A, "cTOP-LIGHTED RIGHTWARDS EQUILATERAL ARROWHEAD"),
   (0x2B9B, "cLEFT-LIGHTED DOWNWARDS EQUILATERAL ARROWHEAD"),
   (0x2B9C, "aBLACK LEFTWARDS EQUILATERAL ARROWHEADbUPWARDS EQUILATERAL ARROWHEAD"),
   (0x2B9E, "bRIGHTWARDS EQUILATERAL ARROWHEADbDOWNWARDS EQUILATERAL ARROWHEAD"),
   (0x2BA0, "aDOWNWARDS TRIANGLE-HEADED ARROW WITH LONG TIP LEFTWARDShRIGHTWARDS"),
   (0x2BA2, "aUPWARDS TRIANGLE-HEADED ARROW WITH LONG TIP LEFTWARDShRIGHTWARDS"),
   (0x2BA4, "aLEFTWARDS TRIANGLE-HEADED ARROW WITH LONG TIP UPWARDS"),
   (0x2BA5, "aRIGHTWARDS TRIANGLE-HEADED ARROW WITH LONG TIP UPWARDS"),
   (0x2BA6, "aLEFTWARDS TRIANGLE-HEADED ARROW WITH LONG TIP DOWNWARDS"),
   (0x2BA7, "aRIGHTWARDS TRIANGLE-HEADED ARROW WITH LONG TIP DOWNWARDS"),
   (0x2BA8, "aBLACK CURVED DOWNWARDS AND LEFTWARDS ARROWeRIGHTWARDS ARROW"),
   (0x2BAA, "cUPWARDS AND LEFTWARDS ARROWeRIGHTWARDS ARROWcLEFTWARDS AND UPWARDS ARROW"),
   (0x2BAD, "cRIGHTWARDS AND UPWARDS ARROWcLEFTWARDS AND DOWNWARDS ARROW"),
   (0x2BAF, "cRIGHTWARDS AND DOWNWARDS ARROWaRIBBON ARROW DOWN LEFTdRIGHTcUP LEFTdRIGHT"),
   (0x2BB4, "cLEFT UPcRIGHT UPcLEFT DOWNcRIGHT DOWN"),
   (0x2BB8, "aUPWARDS WHITE ARROW FROM BAR WITH HORIZONTAL BAR"),
   (0x2BB9, "aUP ARROWHEAD IN A RECTANGLE BOXaOVERLAPPING WHITE SQUAREScAND BLACK SQUARES"),
   (0x2BBC, "bBLACK SQUARESaBALLOT BOX WITH LIGHT XaCIRCLED XbBOLD XaBLACK SQUARE CENTRED"),
   (0x2BC1, "bDIAMOND CENTREDaTURNED BLACK PENTAGONaHORIZONTAL BLACK OCTAGONaBLACK OCTAGON"),
   (0x2BC5, "bMEDIUM UP-POINTING TRIANGLE CENTREDcDOWN-POINTING TRIANGLE CENTRED"),
   (0x2BC7, "cLEFT-POINTING TRIANGLE CENTREDcRIGHT-POINTING TRIANGLE CENTRED"),
   (0x2BC9, "aNEPTUNE FORM TWOaTOP HALF BLACK CIRCLEaBOTTOM HALF BLACK CIRCLE"),
   (0x2BCC, "aLIGHT FOUR POINTED BLACK CUSPaROTATED LIGHT FOUR POINTED BLACK CUSP"),
   (0x2BCE, "aWHITE FOUR POINTED CUSPaROTATED WHITE FOUR POINTED CUSP"),
   (0x2BD0, "aSQUARE POSITION INDICATORaUNCERTAINTY SIGNaGROUP MARKaPLUTO FORM TWOcTHREE"),
   (0x2BD5, "cFOURcFIVEaTRANSPLUTOaPROSERPINAaASTRAEAaHYGIEAaPHOLUSaNESSUS"),
   (0x2BDD, "aWHITE MOON SELENAaBLACK DIAMOND ON CROSSaTRUE LIGHT MOON ARTAaCUPIDOaHADES"),
   (0x2BE2, "aZEUSaKRONOSaAPOLLONaADMETOSaVULCANUSaPOSEIDONaLEFT HALF BLACK STAR"),
   (0x2BE9, "aRIGHT HALF BLACK STARaSTAR WITH LEFT HALF BLACKcRIGHT HALF BLACK"),
   (0x2BEC, "aLEFTWARDS TWO-HEADED ARROW WITH TRIANGLE ARROWHEADS"),
   (0x2BED, "aUPWARDS TWO-HEADED ARROW WITH TRIANGLE ARROWHEADS"),
   (0x2BEE, "aRIGHTWARDS TWO-HEADED ARROW WITH TRIANGLE ARROWHEADS"),
   (0x2BEF, "aDOWNWARDS TWO-HEADED ARROW WITH TRIANGLE ARROWHEADSaERIS FORM ONEcTWOaSEDNA"),
   (0x2BF3, "aRUSSIAN ASTROLOGICAL SYMBOL VIGINTILEdNOVILEdQUINTILEdBINOVILEdSENTAGON"),
   (0x2BF8, "dTREDECILEaEQUALS SIGN WITH INFINITY BELOWaUNITED SYMBOLaSEPARATED SYMBOL"),
   (0x2BFC, "aDOUBLED SYMBOLaPASSED SYMBOLaREVERSED RIGHT ANGLEaHELLSCHREIBER PAUSE SYMBOL")]

end RecordAudit.Text.CharacterName

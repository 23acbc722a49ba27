/-!
# Names of letters and signs of European scripts

The characters from U+0020 to U+058F: Latin, Greek, Cyrillic and Armenian letters, and the signs
among them. Each line gives the code point of its first name; the names of the characters after it
follow, each behind a small letter that tells how many words it shares with the name before it.
-/

namespace RecordAudit.Text.CharacterName

def europeanScripts : List (Nat × String) :=
  [(0x0020, "aSPACEaEXCLAMATION MARKaQUOTATION MARKaNUMBER SIGNaDOLLAR SIGNaPERCENT SIGN"),
   (0x0026, "aAMPERSANDaAPOSTROPHEaLEFT PARENTHESISaRIGHT PARENTHESISaASTERISKaPLUS SIGN"),
   (0x002C, "aCOMMAaHYPHEN-MINUSaFULL STOPaSOLIDUSaDIGIT ZERObONEbTWObTHREEbFOURbFIVEbSIX"),
   (0x0037, "bSEVENbEIGHTbNINEaCOLONaSEMICOLONaLESS-THAN SIGNaEQUALS SIGNaGREATER-THAN SIGN"),
   (0x003F, "aQUESTION MARKaCOMMERCIAL ATaLATIN CAPITAL LETTER AdBdCdDdEdFdGdHdIdJdKdLdMdN"),
   (0x004F, "dOdPdQdRdSdTdUdVdWdXdYdZaLEFT SQUARE BRACKETaREVERSE SOLIDUS"),
   (0x005D, "aRIGHT SQUARE BRACKETaCIRCUMFLEX ACCENTaLOW LINEaGRAVE ACCENT"),
   (0x0061, "aLATIN SMALL LETTER AdBdCdDdEdFdGdHdIdJdKdLdMdNdOdPdQdRdSdTdUdVdWdXdYdZ"),
   (0x007B, "aLEFT CURLY BRACKETaVERTICAL LINEaRIGHT CURLY BRACKETaTILDE"),
   (0x00A0, "aNO-BREAK SPACEaINVERTED EXCLAMATION MARKaCENT SIGNaPOUND SIGNaCURRENCY SIGN"),
   (0x00A5, "aYEN SIGNaBROKEN BARaSECTION SIGNaDIAERESISaCOPYRIGHT SIGN"),
   (0x00AA, "aFEMININE ORDINAL INDICATORaLEFT-POINTING DOUBLE ANGLE QUOTATION MARKaNOT SIGN"),
   (0x00AD, "aSOFT HYPHENaREGISTERED SIGNaMACRONaDEGREE SIGNaPLUS-MINUS SIGN"),
   (0x00B2, "aSUPERSCRIPT TWObTHREEaACUTE ACCENTaMICRO SIGNaPILCROW SIGNaMIDDLE DOTaCEDILLA"),
   (0x00B9, "aSUPERSCRIPT ONEaMASCULINE ORDINAL INDICATOR"),
   (0x00BB, "aRIGHT-POINTING DOUBLE ANGLE QUOTATION MARKaVULGAR FRACTION ONE QUARTERdHALF"),
   (0x00BE, "cTHREE QUARTERSaINVERTED QUESTION MARKaLATIN CAPITAL LETTER A WITH GRAVEfACUTE"),
   (0x00C2, "fCIRCUMFLEXfTILDEfDIAERESISfRING ABOVEdAEdC WITH CEDILLAdE WITH GRAVEfACUTE"),
   (0x00CA, "fCIRCUMFLEXfDIAERESISdI WITH GRAVEfACUTEfCIRCUMFLEXfDIAERESISdETHdN WITH TILDE"),
   (0x00D2, "dO WITH GRAVEfACUTEfCIRCUMFLEXfTILDEfDIAERESISaMULTIPLICATION SIGN"),
   (0x00D8, "aLATIN CAPITAL LETTER O WITH STROKEdU WITH GRAVEfACUTEfCIRCUMFLEXfDIAERESIS"),
   (0x00DD, "dY WITH ACUTEdTHORNbSMALL LETTER SHARP SdA WITH GRAVEfACUTEfCIRCUMFLEXfTILDE"),
   (0x00E4, "fDIAERESISfRING ABOVEdAEdC WITH CEDILLAdE WITH GRAVEfACUTEfCIRCUMFLEX"),
   (0x00EB, "fDIAERESISdI WITH GRAVEfACUTEfCIRCUMFLEXfDIAERESISdETHdN WITH TILDE"),
   (0x00F2, "dO WITH GRAVEfACUTEfCIRCUMFLEXfTILDEfDIAERESISaDIVISION SIGN"),
   (0x00F8, "aLATIN SMALL LETTER O WITH STROKEdU WITH GRAVEfACUTEfCIRCUMFLEXfDIAERESIS"),
   (0x00FD, "dY WITH ACUTEdTHORNdY WITH DIAERESISbCAPITAL LETTER A WITH MACRON"),
   (0x0101, "bSMALL LETTER A WITH MACRONbCAPITAL LETTER A WITH BREVE"),
   (0x0103, "bSMALL LETTER A WITH BREVEbCAPITAL LETTER A WITH OGONEK"),
   (0x0105, "bSMALL LETTER A WITH OGONEKbCAPITAL LETTER C WITH ACUTE"),
   (0x0107, "bSMALL LETTER C WITH ACUTEbCAPITAL LETTER C WITH CIRCUMFLEX"),
   (0x0109, "bSMALL LETTER C WITH CIRCUMFLEXbCAPITAL LETTER C WITH DOT ABOVE"),
   (0x010B, "bSMALL LETTER C WITH DOT ABOVEbCAPITAL LETTER C WITH CARON"),
   (0x010D, "bSMALL LETTER C WITH CARONbCAPITAL LETTER D WITH CARON"),
   (0x010F, "bSMALL LETTER D WITH CARONbCAPITAL LETTER D WITH STROKE"),
   (0x0111, "bSMALL LETTER D WITH STROKEbCAPITAL LETTER E WITH MACRON"),
   (0x0113, "bSMALL LETTER E WITH MACRONbCAPITAL LETTER E WITH BREVE"),
   (0x0115, "bSMALL LETTER E WITH BREVEbCAPITAL LETTER E WITH DOT ABOVE"),
   (0x0117, "bSMALL LETTER E WITH DOT ABOVEbCAPITAL LETTER E WITH OGONEK"),
   (0x0119, "bSMALL LETTER E WITH OGONEKbCAPITAL LETTER E WITH CARON"),
   (0x011B, "bSMALL LETTER E WITH CARONbCAPITAL LETTER G WITH CIRCUMFLEX"),
   (0x011D, "bSMALL LETTER G WITH CIRCUMFLEXbCAPITAL LETTER G WITH BREVE"),
   (0x011F, "bSMALL LETTER G WITH BREVEbCAPITAL LETTER G WITH DOT ABOVE"),
   (0x0121, "bSMALL LETTER G WITH DOT ABOVEbCAPITAL LETTER G WITH CEDILLA"),
   (0x0123, "bSMALL LETTER G WITH CEDILLAbCAPITAL LETTER H WITH CIRCUMFLEX"),
   (0x0125, "bSMALL LETTER H WITH CIRCUMFLEXbCAPITAL LETTER H WITH STROKE"),
   (0x0127, "bSMALL LETTER H WITH STROKEbCAPITAL LETTER I WITH TILDE"),
   (0x0129, "bSMALL LETTER I WITH TILDEbCAPITAL LETTER I WITH MACRON"),
   (0x012B, "bSMALL LETTER I WITH MACRONbCAPITAL LETTER I WITH BREVE"),
   (0x012D, "bSMALL LETTER I WITH BREVEbCAPITAL LETTER I WITH OGONEK"),
   (0x012F, "bSMALL LETTER I WITH OGONEKbCAPITAL LETTER I WITH DOT ABOVE"),
   (0x0131, "bSMALL LETTER DOTLESS IbCAPITAL LIGATURE IJbSMALL LIGATURE IJ"),
   (0x0134, "bCAPITAL LETTER J WITH CIRCUMFLEXbSMALL LETTER J WITH CIRCUMFLEX"),
   (0x0136, "bCAPITAL LETTER K WITH CEDILLAbSMALL LETTER K WITH CEDILLAdKRA"),
   (0x0139, "bCAPITAL LETTER L WITH ACUTEbSMALL LETTER L WITH ACUTE"),
   (0x013B, "bCAPITAL LETTER L WITH CEDILLAbSMALL LETTER L WITH CEDILLA"),
   (0x013D, "bCAPITAL LETTER L WITH CARONbSMALL LETTER L WITH CARON"),
   (0x013F, "bCAPITAL LETTER L WITH MIDDLE DOTbSMALL LETTER L WITH MIDDLE DOT"),
   (0x0141, "bCAPITAL LETTER L WITH STROKEbSMALL LETTER L WITH STROKE"),
   (0x0143, "bCAPITAL LETTER N WITH ACUTEbSMALL LETTER N WITH ACUTE"),
   (0x0145, "bCAPITAL LETTER N WITH CEDILLAbSMALL LETTER N WITH CEDILLA"),
   (0x0147, "bCAPITAL LETTER N WITH CARONbSMALL LETTER N WITH CARONePRECEDED BY APOSTROPHE"),
   (0x014A, "bCAPITAL LETTER ENGbSMALL LETTER ENGbCAPITAL LETTER O WITH MACRON"),
   (0x014D, "bSMALL LETTER O WITH MACRONbCAPITAL LETTER O WITH BREVE"),
   (0x014F, "bSMALL LETTER O WITH BREVEbCAPITAL LETTER O WITH DOUBLE ACUTE"),
   (0x0151, "bSMALL LETTER O WITH DOUBLE ACUTEbCAPITAL LIGATURE OEbSMALL LIGATURE OE"),
   (0x0154, "bCAPITAL LETTER R WITH ACUTEbSMALL LETTER R WITH ACUTE"),
   (0x0156, "bCAPITAL LETTER R WITH CEDILLAbSMALL LETTER R WITH CEDILLA"),
   (0x0158, "bCAPITAL LETTER R WITH CARONbSMALL LETTER R WITH CARON"),
   (0x015A, "bCAPITAL LETTER S WITH ACUTEbSMALL LETTER S WITH ACUTE"),
   (0x015C, "bCAPITAL LETTER S WITH CIRCUMFLEXbSMALL LETTER S WITH CIRCUMFLEX"),
   (0x015E, "bCAPITAL LETTER S WITH CEDILLAbSMALL LETTER S WITH CEDILLA"),
   (0x0160, "bCAPITAL LETTER S WITH CARONbSMALL LETTER S WITH CARON"),
   (0x0162, "bCAPITAL LETTER T WITH CEDILLAbSMALL LETTER T WITH CEDILLA"),
   (0x0164, "bCAPITAL LETTER T WITH CARONbSMALL LETTER T WITH CARON"),
   (0x0166, "bCAPITAL LETTER T WITH STROKEbSMALL LETTER T WITH STROKE"),
   (0x0168, "bCAPITAL LETTER U WITH TILDEbSMALL LETTER U WITH TILDE"),
   (0x016A, "bCAPITAL LETTER U WITH MACRONbSMALL LETTER U WITH MACRON"),
   (0x016C, "bCAPITAL LETTER U WITH BREVEbSMALL LETTER U WITH BREVE"),
   (0x016E, "bCAPITAL LETTER U WITH RING ABOVEbSMALL LETTER U WITH RING ABOVE"),
   (0x0170, "bCAPITAL LETTER U WITH DOUBLE ACUTEbSMALL LETTER U WITH DOUBLE ACUTE"),
   (0x0172, "bCAPITAL LETTER U WITH OGONEKbSMALL LETTER U WITH OGONEK"),
   (0x0174, "bCAPITAL LETTER W WITH CIRCUMFLEXbSMALL LETTER W WITH CIRCUMFLEX"),
   (0x0176, "bCAPITAL LETTER Y WITH CIRCUMFLEXbSMALL LETTER Y WITH CIRCUMFLEX"),
   (0x0178, "bCAPITAL LETTER Y WITH DIAERESISdZ WITH ACUTEbSMALL LETTER Z WITH ACUTE"),
   (0x017B, "bCAPITAL LETTER Z WITH DOT ABOVEbSMALL LETTER Z WITH DOT ABOVE"),
   (0x017D, "bCAPITAL LETTER Z WITH CARONbSMALL LETTER Z WITH CARONdLONG SdB WITH STROKE"),
   (0x0181, "bCAPITAL LETTER B WITH HOOKfTOPBARbSMALL LETTER B WITH TOPBAR"),
   (0x0184, "bCAPITAL LETTER TONE SIXbSMALL LETTER TONE SIXbCAPITAL LETTER OPEN O"),
   (0x0187, "dC WITH HOOKbSMALL LETTER C WITH HOOKbCAPITAL LETTER AFRICAN DdD WITH HOOK"),
   (0x018B, "fTOPBARbSMALL LETTER D WITH TOPBARdTURNED DELTAbCAPITAL LETTER REVERSED E"),
   (0x018F, "dSCHWAdOPEN EdF WITH HOOKbSMALL LETTER F WITH HOOKbCAPITAL LETTER G WITH HOOK"),
   (0x0194, "dGAMMAbSMALL LETTER HVbCAPITAL LETTER IOTAdI WITH STROKEdK WITH HOOK"),
   (0x0199, "bSMALL LETTER K WITH HOOKdL WITH BARdLAMBDA WITH STROKE"),
   (0x019C, "bCAPITAL LETTER TURNED MdN WITH LEFT HOOKbSMALL LETTER N WITH LONG RIGHT LEG"),
   (0x019F, "bCAPITAL LETTER O WITH MIDDLE TILDEfHORNbSMALL LETTER O WITH HORN"),
   (0x01A2, "bCAPITAL LETTER OIbSMALL LETTER OIbCAPITAL LETTER P WITH HOOK"),
   (0x01A5, "bSMALL LETTER P WITH HOOKbLETTER YRbCAPITAL LETTER TONE TWO"),
   (0x01A8, "bSMALL LETTER TONE TWObCAPITAL LETTER ESHbLETTER REVERSED ESH LOOP"),
   (0x01AB, "bSMALL LETTER T WITH PALATAL HOOKbCAPITAL LETTER T WITH HOOK"),
   (0x01AD, "bSMALL LETTER T WITH HOOKbCAPITAL LETTER T WITH RETROFLEX HOOKdU WITH HORN"),
   (0x01B0, "bSMALL LETTER U WITH HORNbCAPITAL LETTER UPSILONdV WITH HOOKdY WITH HOOK"),
   (0x01B4, "bSMALL LETTER Y WITH HOOKbCAPITAL LETTER Z WITH STROKE"),
   (0x01B6, "bSMALL LETTER Z WITH STROKEbCAPITAL LETTER EZHdEZH REVERSED"),
   (0x01B9, "bSMALL LETTER EZH REVERSEDeWITH TAILbLETTER TWO WITH STROKE"),
   (0x01BC, "bCAPITAL LETTER TONE FIVEbSMALL LETTER TONE FIVE"),
   (0x01BE, "bLETTER INVERTED GLOTTAL STOP WITH STROKEcWYNNcDENTAL CLICKcLATERAL CLICK"),
   (0x01C2, "cALVEOLAR CLICKcRETROFLEX CLICKbCAPITAL LETTER DZ WITH CARON"),
   (0x01C5, "dD WITH SMALL LETTER Z WITH CARONbSMALL LETTER DZ WITH CARONbCAPITAL LETTER LJ"),
   (0x01C8, "dL WITH SMALL LETTER JbSMALL LETTER LJbCAPITAL LETTER NJdN WITH SMALL LETTER J"),
   (0x01CC, "bSMALL LETTER NJbCAPITAL LETTER A WITH CARONbSMALL LETTER A WITH CARON"),
   (0x01CF, "bCAPITAL LETTER I WITH CARONbSMALL LETTER I WITH CARON"),
   (0x01D1, "bCAPITAL LETTER O WITH CARONbSMALL LETTER O WITH CARON"),
   (0x01D3, "bCAPITAL LETTER U WITH CARONbSMALL LETTER U WITH CARON"),
   (0x01D5, "bCAPITAL LETTER U WITH DIAERESIS AND MACRON"),
   (0x01D6, "bSMALL LETTER U WITH DIAERESIS AND MACRON"),
   (0x01D7, "bCAPITAL LETTER U WITH DIAERESIS AND ACUTE"),
   (0x01D8, "bSMALL LETTER U WITH DIAERESIS AND ACUTE"),
   (0x01D9, "bCAPITAL LETTER U WITH DIAERESIS AND CARON"),
   (0x01DA, "bSMALL LETTER U WITH DIAERESIS AND CARON"),
   (0x01DB, "bCAPITAL LETTER U WITH DIAERESIS AND GRAVE"),
   (0x01DC, "bSMALL LETTER U WITH DIAERESIS AND GRAVEdTURNED E"),
   (0x01DE, "bCAPITAL LETTER A WITH DIAERESIS AND MACRON"),
   (0x01DF, "bSMALL LETTER A WITH DIAERESIS AND MACRON"),
   (0x01E0, "bCAPITAL LETTER A WITH DOT ABOVE AND MACRON"),
   (0x01E1, "bSMALL LETTER A WITH DOT ABOVE AND MACRONbCAPITAL LETTER AE WITH MACRON"),
   (0x01E3, "bSMALL LETTER AE WITH MACRONbCAPITAL LETTER G WITH STROKE"),
   (0x01E5, "bSMALL LETTER G WITH STROKEbCAPITAL LETTER G WITH CARON"),
   (0x01E7, "bSMALL LETTER G WITH CARONbCAPITAL LETTER K WITH CARON"),
   (0x01E9, "bSMALL LETTER K WITH CARONbCAPITAL LETTER O WITH OGONEK"),
   (0x01EB, "bSMALL LETTER O WITH OGONEKbCAPITAL LETTER O WITH OGONEK AND MACRON"),
   (0x01ED, "bSMALL LETTER O WITH OGONEK AND MACRONbCAPITAL LETTER EZH WITH CARON"),
   (0x01EF, "bSMALL LETTER EZH WITH CARONdJ WITH CARONbCAPITAL LETTER DZ"),
   (0x01F2, "dD WITH SMALL LETTER ZbSMALL LETTER DZbCAPITAL LETTER G WITH ACUTE"),
   (0x01F5, "bSMALL LETTER G WITH ACUTEbCAPITAL LETTER HWAIRdWYNNdN WITH GRAVE"),
   (0x01F9, "bSMALL LETTER N WITH GRAVEbCAPITAL LETTER A WITH RING ABOVE AND ACUTE"),
   (0x01FB, "bSMALL LETTER A WITH RING ABOVE AND ACUTEbCAPITAL LETTER AE WITH ACUTE"),
   (0x01FD, "bSMALL LETTER AE WITH ACUTEbCAPITAL LETTER O WITH STROKE AND ACUTE"),
   (0x01FF, "bSMALL LETTER O WITH STROKE AND ACUTEbCAPITAL LETTER A WITH DOUBLE GRAVE"),
   (0x0201, "bSMALL LETTER A WITH DOUBLE GRAVEbCAPITAL LETTER A WITH INVERTED BREVE"),
   (0x0203, "bSMALL LETTER A WITH INVERTED BREVEbCAPITAL LETTER E WITH DOUBLE GRAVE"),
   (0x0205, "bSMALL LETTER E WITH DOUBLE GRAVEbCAPITAL LETTER E WITH INVERTED BREVE"),
   (0x0207, "bSMALL LETTER E WITH INVERTED BREVEbCAPITAL LETTER I WITH DOUBLE GRAVE"),
   (0x0209, "bSMALL LETTER I WITH DOUBLE GRAVEbCAPITAL LETTER I WITH INVERTED BREVE"),
   (0x020B, "bSMALL LETTER I WITH INVERTED BREVEbCAPITAL LETTER O WITH DOUBLE GRAVE"),
   (0x020D, "bSMALL LETTER O WITH DOUBLE GRAVEbCAPITAL LETTER O WITH INVERTED BREVE"),
   (0x020F, "bSMALL LETTER O WITH INVERTED BREVEbCAPITAL LETTER R WITH DOUBLE GRAVE"),
   (0x0211, "bSMALL LETTER R WITH DOUBLE GRAVEbCAPITAL LETTER R WITH INVERTED BREVE"),
   (0x0213, "bSMALL LETTER R WITH INVERTED BREVEbCAPITAL LETTER U WITH DOUBLE GRAVE"),
   (0x0215, "bSMALL LETTER U WITH DOUBLE GRAVEbCAPITAL LETTER U WITH INVERTED BREVE"),
   (0x0217, "bSMALL LETTER U WITH INVERTED BREVEbCAPITAL LETTER S WITH COMMA BELOW"),
   (0x0219, "bSMALL LETTER S WITH COMMA BELOWbCAPITAL LETTER T WITH COMMA BELOW"),
   (0x021B, "bSMALL LETTER T WITH COMMA BELOWbCAPITAL LETTER YOGHbSMALL LETTER YOGH"),
   (0x021E, "bCAPITAL LETTER H WITH CARONbSMALL LETTER H WITH CARON"),
   (0x0220, "bCAPITAL LETTER N WITH LONG RIGHT LEGbSMALL LETTER D WITH CURL"),
   (0x0222, "bCAPITAL LETTER OUbSMALL LETTER OUbCAPITAL LETTER Z WITH HOOK"),
   (0x0225, "bSMALL LETTER Z WITH HOOKbCAPITAL LETTER A WITH DOT ABOVE"),
   (0x0227, "bSMALL LETTER A WITH DOT ABOVEbCAPITAL LETTER E WITH CEDILLA"),
   (0x0229, "bSMALL LETTER E WITH CEDILLAbCAPITAL LETTER O WITH DIAERESIS AND MACRON"),
   (0x022B, "bSMALL LETTER O WITH DIAERESIS AND MACRON"),
   (0x022C, "bCAPITAL LETTER O WITH TILDE AND MACRONbSMALL LETTER O WITH TILDE AND MACRON"),
   (0x022E, "bCAPITAL LETTER O WITH DOT ABOVEbSMALL LETTER O WITH DOT ABOVE"),
   (0x0230, "bCAPITAL LETTER O WITH DOT ABOVE AND MACRON"),
   (0x0231, "bSMALL LETTER O WITH DOT ABOVE AND MACRONbCAPITAL LETTER Y WITH MACRON"),
   (0x0233, "bSMALL LETTER Y WITH MACRONdL WITH CURLdN WITH CURLdT WITH CURLdDOTLESS J"),
   (0x0238, "dDB DIGRAPHdQP DIGRAPHbCAPITAL LETTER A WITH STROKEdC WITH STROKE"),
   (0x023C, "bSMALL LETTER C WITH STROKEbCAPITAL LETTER L WITH BARdT WITH DIAGONAL STROKE"),
   (0x023F, "bSMALL LETTER S WITH SWASH TAILdZ WITH SWASH TAILbCAPITAL LETTER GLOTTAL STOP"),
   (0x0242, "bSMALL LETTER GLOTTAL STOPbCAPITAL LETTER B WITH STROKEdU BARdTURNED V"),
   (0x0246, "dE WITH STROKEbSMALL LETTER E WITH STROKEbCAPITAL LETTER J WITH STROKE"),
   (0x0249, "bSMALL LETTER J WITH STROKEbCAPITAL LETTER SMALL Q WITH HOOK TAIL"),
   (0x024B, "bSMALL LETTER Q WITH HOOK TAILbCAPITAL LETTER R WITH STROKE"),
   (0x024D, "bSMALL LETTER R WITH STROKEbCAPITAL LETTER Y WITH STROKE"),
   (0x024F, "bSMALL LETTER Y WITH STROKEdTURNED AdALPHAdTURNED ALPHAdB WITH HOOKdOPEN O"),
   (0x0255, "dC WITH CURLdD WITH TAILfHOOKdREVERSED EdSCHWAdSCHWA WITH HOOKdOPEN E"),
   (0x025C, "dREVERSED OPEN EfE WITH HOOKdCLOSED REVERSED OPEN EdDOTLESS J WITH STROKE"),
   (0x0260, "dG WITH HOOKdSCRIPT GbLETTER SMALL CAPITAL GbSMALL LETTER GAMMAdRAMS HORN"),
   (0x0265, "dTURNED HdH WITH HOOKdHENG WITH HOOKdI WITH STROKEdIOTAbLETTER SMALL CAPITAL I"),
   (0x026B, "bSMALL LETTER L WITH MIDDLE TILDEfBELTfRETROFLEX HOOKdLEZHdTURNED M"),
   (0x0270, "eM WITH LONG LEGdM WITH HOOKdN WITH LEFT HOOKfRETROFLEX HOOK"),
   (0x0274, "bLETTER SMALL CAPITAL NbSMALL LETTER BARRED ObLETTER SMALL CAPITAL OE"),
   (0x0277, "bSMALL LETTER CLOSED OMEGAdPHIdTURNED ReR WITH LONG LEGgHOOKdR WITH LONG LEG"),
   (0x027D, "fTAILfFISHHOOKdREVERSED R WITH FISHHOOKbLETTER SMALL CAPITAL ReINVERTED R"),
   (0x0282, "bSMALL LETTER S WITH HOOKdESHdDOTLESS J WITH STROKE AND HOOK"),
   (0x0285, "dSQUAT REVERSED ESHdESH WITH CURLdTURNED TdT WITH RETROFLEX HOOKdU BARdUPSILON"),
   (0x028B, "dV WITH HOOKdTURNED VeWeYbLETTER SMALL CAPITAL Y"),
   (0x0290, "bSMALL LETTER Z WITH RETROFLEX HOOKfCURLdEZHdEZH WITH CURLbLETTER GLOTTAL STOP"),
   (0x0295, "cPHARYNGEAL VOICED FRICATIVEcINVERTED GLOTTAL STOPcSTRETCHED CcBILABIAL CLICK"),
   (0x0299, "cSMALL CAPITAL BbSMALL LETTER CLOSED OPEN EbLETTER SMALL CAPITAL G WITH HOOKeH"),
   (0x029D, "bSMALL LETTER J WITH CROSSED-TAILdTURNED KbLETTER SMALL CAPITAL L"),
   (0x02A0, "bSMALL LETTER Q WITH HOOKbLETTER GLOTTAL STOP WITH STROKE"),
   (0x02A2, "cREVERSED GLOTTAL STOP WITH STROKEbSMALL LETTER DZ DIGRAPHdDEZH DIGRAPH"),
   (0x02A5, "dDZ DIGRAPH WITH CURLdTS DIGRAPHdTESH DIGRAPHdTC DIGRAPH WITH CURL"),
   (0x02A9, "dFENG DIGRAPHdLS DIGRAPHdLZ DIGRAPHbLETTER BILABIAL PERCUSSIVE"),
   (0x02AD, "cBIDENTAL PERCUSSIVEbSMALL LETTER TURNED H WITH FISHHOOKgFISHHOOK AND TAIL"),
   (0x02B0, "aMODIFIER LETTER SMALL HdH WITH HOOKdJdRdTURNED ReR WITH HOOK"),
   (0x02B6, "dCAPITAL INVERTED RdWdYcPRIMEcDOUBLE PRIMEcTURNED COMMAcAPOSTROPHE"),
   (0x02BD, "cREVERSED COMMAcRIGHT HALF RINGcLEFT HALF RINGcGLOTTAL STOP"),
   (0x02C1, "cREVERSED GLOTTAL STOPcLEFT ARROWHEADcRIGHT ARROWHEADcUP ARROWHEAD"),
   (0x02C5, "cDOWN ARROWHEADcCIRCUMFLEX ACCENTaCARONaMODIFIER LETTER VERTICAL LINEcMACRON"),
   (0x02CA, "cACUTE ACCENTcGRAVE ACCENTcLOW VERTICAL LINEdMACRONdGRAVE ACCENTdACUTE ACCENT"),
   (0x02D0, "cTRIANGULAR COLONcHALF TRIANGULAR COLONcCENTRED RIGHT HALF RINGdLEFT HALF RING"),
   (0x02D4, "cUP TACKcDOWN TACKcPLUS SIGNcMINUS SIGNaBREVEaDOT ABOVEaRING ABOVEaOGONEK"),
   (0x02DC, "aSMALL TILDEaDOUBLE ACUTE ACCENTaMODIFIER LETTER RHOTIC HOOKcCROSS ACCENT"),
   (0x02E0, "cSMALL GAMMAdLdSdXdREVERSED GLOTTAL STOPcEXTRA-HIGH TONE BARcHIGH TONE BAR"),
   (0x02E7, "cMID TONE BARcLOW TONE BARcEXTRA-LOW TONE BARcYIN DEPARTING TONE MARK"),
   (0x02EB, "cYANG DEPARTING TONE MARKcVOICINGcUNASPIRATEDcDOUBLE APOSTROPHE"),
   (0x02EF, "cLOW DOWN ARROWHEADdUP ARROWHEADdLEFT ARROWHEADdRIGHT ARROWHEADdRING"),
   (0x02F4, "cMIDDLE GRAVE ACCENTdDOUBLE GRAVE ACCENTeACUTE ACCENTcLOW TILDEcRAISED COLON"),
   (0x02F9, "cBEGIN HIGH TONEcEND HIGH TONEcBEGIN LOW TONEcEND LOW TONEcSHELFcOPEN SHELF"),
   (0x02FF, "cLOW LEFT ARROWaCOMBINING GRAVE ACCENTbACUTE ACCENTbCIRCUMFLEX ACCENTbTILDE"),
   (0x0304, "bMACRONbOVERLINEbBREVEbDOT ABOVEbDIAERESISbHOOK ABOVEbRING ABOVE"),
   (0x030B, "bDOUBLE ACUTE ACCENTbCARONbVERTICAL LINE ABOVEbDOUBLE VERTICAL LINE ABOVE"),
   (0x030F, "cGRAVE ACCENTbCANDRABINDUbINVERTED BREVEbTURNED COMMA ABOVEbCOMMA ABOVE"),
   (0x0314, "bREVERSED COMMA ABOVEbCOMMA ABOVE RIGHTbGRAVE ACCENT BELOWbACUTE ACCENT BELOW"),
   (0x0318, "bLEFT TACK BELOWbRIGHT TACK BELOWbLEFT ANGLE ABOVEbHORNbLEFT HALF RING BELOW"),
   (0x031D, "bUP TACK BELOWbDOWN TACK BELOWbPLUS SIGN BELOWbMINUS SIGN BELOW"),
   (0x0321, "bPALATALIZED HOOK BELOWbRETROFLEX HOOK BELOWbDOT BELOWbDIAERESIS BELOW"),
   (0x0325, "bRING BELOWbCOMMA BELOWbCEDILLAbOGONEKbVERTICAL LINE BELOWbBRIDGE BELOW"),
   (0x032B, "bINVERTED DOUBLE ARCH BELOWbCARON BELOWbCIRCUMFLEX ACCENT BELOWbBREVE BELOW"),
   (0x032F, "bINVERTED BREVE BELOWbTILDE BELOWbMACRON BELOWbLOW LINEbDOUBLE LOW LINE"),
   (0x0334, "bTILDE OVERLAYbSHORT STROKE OVERLAYbLONG STROKE OVERLAYbSHORT SOLIDUS OVERLAY"),
   (0x0338, "bLONG SOLIDUS OVERLAYbRIGHT HALF RING BELOWbINVERTED BRIDGE BELOWbSQUARE BELOW"),
   (0x033C, "bSEAGULL BELOWbX ABOVEbVERTICAL TILDEbDOUBLE OVERLINEbGRAVE TONE MARK"),
   (0x0341, "bACUTE TONE MARKbGREEK PERISPOMENIcKORONIScDIALYTIKA TONOScYPOGEGRAMMENI"),
   (0x0346, "bBRIDGE ABOVEbEQUALS SIGN BELOWbDOUBLE VERTICAL LINE BELOWbLEFT ANGLE BELOW"),
   (0x034A, "bNOT TILDE ABOVEbHOMOTHETIC ABOVEbALMOST EQUAL TO ABOVEbLEFT RIGHT ARROW BELOW"),
   (0x034E, "bUPWARDS ARROW BELOWbGRAPHEME JOINERbRIGHT ARROWHEAD ABOVE"),
   (0x0351, "bLEFT HALF RING ABOVEbFERMATAbX BELOWbLEFT ARROWHEAD BELOW"),
   (0x0355, "bRIGHT ARROWHEAD BELOWdAND UP ARROWHEAD BELOWcHALF RING ABOVEbDOT ABOVE RIGHT"),
   (0x0359, "bASTERISK BELOWbDOUBLE RING BELOWbZIGZAG ABOVEbDOUBLE BREVE BELOWcBREVEcMACRON"),
   (0x035F, "cMACRON BELOWcTILDEcINVERTED BREVEcRIGHTWARDS ARROW BELOWbLATIN SMALL LETTER A"),
   (0x0364, "eEeIeOeUeCeDeHeMeReTeVeXaGREEK CAPITAL LETTER HETAbSMALL LETTER HETA"),
   (0x0372, "bCAPITAL LETTER ARCHAIC SAMPIbSMALL LETTER ARCHAIC SAMPIbNUMERAL SIGN"),
   (0x0375, "bLOWER NUMERAL SIGNbCAPITAL LETTER PAMPHYLIAN DIGAMMA"),
   (0x0377, "bSMALL LETTER PAMPHYLIAN DIGAMMA"),
   (0x037A, "bYPOGEGRAMMENIbSMALL REVERSED LUNATE SIGMA SYMBOLcDOTTED LUNATE SIGMA SYMBOL"),
   (0x037D, "cREVERSED DOTTED LUNATE SIGMA SYMBOLbQUESTION MARKbCAPITAL LETTER YOT"),
   (0x0384, "bTONOSbDIALYTIKA TONOSbCAPITAL LETTER ALPHA WITH TONOSbANO TELEIA"),
   (0x0388, "bCAPITAL LETTER EPSILON WITH TONOSdETA WITH TONOSdIOTA WITH TONOS"),
   (0x038C, "dOMICRON WITH TONOS"),
   (0x038E, "dUPSILON WITH TONOSdOMEGA WITH TONOS"),
   (0x0390, "bSMALL LETTER IOTA WITH DIALYTIKA AND TONOSbCAPITAL LETTER ALPHAdBETAdGAMMA"),
   (0x0394, "dDELTAdEPSILONdZETAdETAdTHETAdIOTAdKAPPAdLAMDAdMUdNUdXIdOMICRONdPIdRHO"),
   (0x03A3, "dSIGMAdTAUdUPSILONdPHIdCHIdPSIdOMEGAdIOTA WITH DIALYTIKA"),
   (0x03AB, "dUPSILON WITH DIALYTIKAbSMALL LETTER ALPHA WITH TONOSdEPSILON WITH TONOS"),
   (0x03AE, "dETA WITH TONOSdIOTA WITH TONOSdUPSILON WITH DIALYTIKA AND TONOSdALPHAdBETA"),
   (0x03B3, "dGAMMAdDELTAdEPSILONdZETAdETAdTHETAdIOTAdKAPPAdLAMDAdMUdNUdXIdOMICRONdPIdRHO"),
   (0x03C2, "dFINAL SIGMAdSIGMAdTAUdUPSILONdPHIdCHIdPSIdOMEGAdIOTA WITH DIALYTIKA"),
   (0x03CB, "dUPSILON WITH DIALYTIKAdOMICRON WITH TONOSdUPSILON WITH TONOSdOMEGA WITH TONOS"),
   (0x03CF, "bCAPITAL KAI SYMBOLbBETA SYMBOLbTHETA SYMBOLbUPSILON WITH HOOK SYMBOL"),
   (0x03D3, "dACUTE AND HOOK SYMBOLdDIAERESIS AND HOOK SYMBOLbPHI SYMBOLbPI SYMBOL"),
   (0x03D7, "bKAI SYMBOLbLETTER ARCHAIC KOPPAbSMALL LETTER ARCHAIC KOPPAbLETTER STIGMA"),
   (0x03DB, "bSMALL LETTER STIGMAbLETTER DIGAMMAbSMALL LETTER DIGAMMAbLETTER KOPPA"),
   (0x03DF, "bSMALL LETTER KOPPAbLETTER SAMPIbSMALL LETTER SAMPIaCOPTIC CAPITAL LETTER SHEI"),
   (0x03E3, "bSMALL LETTER SHEIbCAPITAL LETTER FEIbSMALL LETTER FEIbCAPITAL LETTER KHEI"),
   (0x03E7, "bSMALL LETTER KHEIbCAPITAL LETTER HORIbSMALL LETTER HORIbCAPITAL LETTER GANGIA"),
   (0x03EB, "bSMALL LETTER GANGIAbCAPITAL LETTER SHIMAbSMALL LETTER SHIMA"),
   (0x03EE, "bCAPITAL LETTER DEIbSMALL LETTER DEIaGREEK KAPPA SYMBOLbRHO SYMBOL"),
   (0x03F2, "bLUNATE SIGMA SYMBOLbLETTER YOTbCAPITAL THETA SYMBOLbLUNATE EPSILON SYMBOL"),
   (0x03F6, "bREVERSED LUNATE EPSILON SYMBOLbCAPITAL LETTER SHObSMALL LETTER SHO"),
   (0x03F9, "bCAPITAL LUNATE SIGMA SYMBOLcLETTER SANbSMALL LETTER SAN"),
   (0x03FC, "bRHO WITH STROKE SYMBOLbCAPITAL REVERSED LUNATE SIGMA SYMBOL"),
   (0x03FE, "cDOTTED LUNATE SIGMA SYMBOLcREVERSED DOTTED LUNATE SIGMA SYMBOL"),
   (0x0400, "aCYRILLIC CAPITAL LETTER IE WITH GRAVEdIOdDJEdGJEdUKRAINIAN IEdDZE"),
   (0x0406, "dBYELORUSSIAN-UKRAINIAN IdYIdJEdLJEdNJEdTSHEdKJEdI WITH GRAVEdSHORT UdDZHEdA"),
   (0x0411, "dBEdVEdGHEdDEdIEdZHEdZEdIdSHORT IdKAdELdEMdENdOdPEdERdESdTEdUdEFdHAdTSEdCHE"),
   (0x0428, "dSHAdSHCHAdHARD SIGNdYERUdSOFT SIGNdEdYUdYAbSMALL LETTER AdBEdVEdGHEdDEdIEdZHE"),
   (0x0437, "dZEdIdSHORT IdKAdELdEMdENdOdPEdERdESdTEdUdEFdHAdTSEdCHEdSHAdSHCHAdHARD SIGN"),
   (0x044B, "dYERUdSOFT SIGNdEdYUdYAdIE WITH GRAVEdIOdDJEdGJEdUKRAINIAN IEdDZE"),
   (0x0456, "dBYELORUSSIAN-UKRAINIAN IdYIdJEdLJEdNJEdTSHEdKJEdI WITH GRAVEdSHORT UdDZHE"),
   (0x0460, "bCAPITAL LETTER OMEGAbSMALL LETTER OMEGAbCAPITAL LETTER YATbSMALL LETTER YAT"),
   (0x0464, "bCAPITAL LETTER IOTIFIED EbSMALL LETTER IOTIFIED EbCAPITAL LETTER LITTLE YUS"),
   (0x0467, "bSMALL LETTER LITTLE YUSbCAPITAL LETTER IOTIFIED LITTLE YUS"),
   (0x0469, "bSMALL LETTER IOTIFIED LITTLE YUSbCAPITAL LETTER BIG YUSbSMALL LETTER BIG YUS"),
   (0x046C, "bCAPITAL LETTER IOTIFIED BIG YUSbSMALL LETTER IOTIFIED BIG YUS"),
   (0x046E, "bCAPITAL LETTER KSIbSMALL LETTER KSIbCAPITAL LETTER PSIbSMALL LETTER PSI"),
   (0x0472, "bCAPITAL LETTER FITAbSMALL LETTER FITAbCAPITAL LETTER IZHITSA"),
   (0x0475, "bSMALL LETTER IZHITSAbCAPITAL LETTER IZHITSA WITH DOUBLE GRAVE ACCENT"),
   (0x0477, "bSMALL LETTER IZHITSA WITH DOUBLE GRAVE ACCENTbCAPITAL LETTER UK"),
   (0x0479, "bSMALL LETTER UKbCAPITAL LETTER ROUND OMEGAbSMALL LETTER ROUND OMEGA"),
   (0x047C, "bCAPITAL LETTER OMEGA WITH TITLObSMALL LETTER OMEGA WITH TITLO"),
   (0x047E, "bCAPITAL LETTER OTbSMALL LETTER OTbCAPITAL LETTER KOPPAbSMALL LETTER KOPPA"),
   (0x0482, "bTHOUSANDS SIGNaCOMBINING CYRILLIC TITLOcPALATALIZATIONcDASIA PNEUMATA"),
   (0x0486, "cPSILI PNEUMATAcPOKRYTIEcHUNDRED THOUSANDS SIGNcMILLIONS SIGN"),
   (0x048A, "aCYRILLIC CAPITAL LETTER SHORT I WITH TAILbSMALL LETTER SHORT I WITH TAIL"),
   (0x048C, "bCAPITAL LETTER SEMISOFT SIGNbSMALL LETTER SEMISOFT SIGN"),
   (0x048E, "bCAPITAL LETTER ER WITH TICKbSMALL LETTER ER WITH TICK"),
   (0x0490, "bCAPITAL LETTER GHE WITH UPTURNbSMALL LETTER GHE WITH UPTURN"),
   (0x0492, "bCAPITAL LETTER GHE WITH STROKEbSMALL LETTER GHE WITH STROKE"),
   (0x0494, "bCAPITAL LETTER GHE WITH MIDDLE HOOKbSMALL LETTER GHE WITH MIDDLE HOOK"),
   (0x0496, "bCAPITAL LETTER ZHE WITH DESCENDERbSMALL LETTER ZHE WITH DESCENDER"),
   (0x0498, "bCAPITAL LETTER ZE WITH DESCENDERbSMALL LETTER ZE WITH DESCENDER"),
   (0x049A, "bCAPITAL LETTER KA WITH DESCENDERbSMALL LETTER KA WITH DESCENDER"),
   (0x049C, "bCAPITAL LETTER KA WITH VERTICAL STROKEbSMALL LETTER KA WITH VERTICAL STROKE"),
   (0x049E, "bCAPITAL LETTER KA WITH STROKEbSMALL LETTER KA WITH STROKE"),
   (0x04A0, "bCAPITAL LETTER BASHKIR KAbSMALL LETTER BASHKIR KA"),
   (0x04A2, "bCAPITAL LETTER EN WITH DESCENDERbSMALL LETTER EN WITH DESCENDER"),
   (0x04A4, "bCAPITAL LIGATURE EN GHEbSMALL LIGATURE EN GHE"),
   (0x04A6, "bCAPITAL LETTER PE WITH MIDDLE HOOKbSMALL LETTER PE WITH MIDDLE HOOK"),
   (0x04A8, "bCAPITAL LETTER ABKHASIAN HAbSMALL LETTER ABKHASIAN HA"),
   (0x04AA, "bCAPITAL LETTER ES WITH DESCENDERbSMALL LETTER ES WITH DESCENDER"),
   (0x04AC, "bCAPITAL LETTER TE WITH DESCENDERbSMALL LETTER TE WITH DESCENDER"),
   (0x04AE, "bCAPITAL LETTER STRAIGHT UbSMALL LETTER STRAIGHT U"),
   (0x04B0, "bCAPITAL LETTER STRAIGHT U WITH STROKEbSMALL LETTER STRAIGHT U WITH STROKE"),
   (0x04B2, "bCAPITAL LETTER HA WITH DESCENDERbSMALL LETTER HA WITH DESCENDER"),
   (0x04B4, "bCAPITAL LIGATURE TE TSEbSMALL LIGATURE TE TSE"),
   (0x04B6, "bCAPITAL LETTER CHE WITH DESCENDERbSMALL LETTER CHE WITH DESCENDER"),
   (0x04B8, "bCAPITAL LETTER CHE WITH VERTICAL STROKEbSMALL LETTER CHE WITH VERTICAL STROKE"),
   (0x04BA, "bCAPITAL LETTER SHHAbSMALL LETTER SHHAbCAPITAL LETTER ABKHASIAN CHE"),
   (0x04BD, "bSMALL LETTER ABKHASIAN CHEbCAPITAL LETTER ABKHASIAN CHE WITH DESCENDER"),
   (0x04BF, "bSMALL LETTER ABKHASIAN CHE WITH DESCENDERbLETTER PALOCHKA"),
   (0x04C1, "bCAPITAL LETTER ZHE WITH BREVEbSMALL LETTER ZHE WITH BREVE"),
   (0x04C3, "bCAPITAL LETTER KA WITH HOOKbSMALL LETTER KA WITH HOOK"),
   (0x04C5, "bCAPITAL LETTER EL WITH TAILbSMALL LETTER EL WITH TAIL"),
   (0x04C7, "bCAPITAL LETTER EN WITH HOOKbSMALL LETTER EN WITH HOOK"),
   (0x04C9, "bCAPITAL LETTER EN WITH TAILbSMALL LETTER EN WITH TAIL"),
   (0x04CB, "bCAPITAL LETTER KHAKASSIAN CHEbSMALL LETTER KHAKASSIAN CHE"),
   (0x04CD, "bCAPITAL LETTER EM WITH TAILbSMALL LETTER EM WITH TAILdPALOCHKA"),
   (0x04D0, "bCAPITAL LETTER A WITH BREVEbSMALL LETTER A WITH BREVE"),
   (0x04D2, "bCAPITAL LETTER A WITH DIAERESISbSMALL LETTER A WITH DIAERESIS"),
   (0x04D4, "bCAPITAL LIGATURE A IEbSMALL LIGATURE A IEbCAPITAL LETTER IE WITH BREVE"),
   (0x04D7, "bSMALL LETTER IE WITH BREVEbCAPITAL LETTER SCHWAbSMALL LETTER SCHWA"),
   (0x04DA, "bCAPITAL LETTER SCHWA WITH DIAERESISbSMALL LETTER SCHWA WITH DIAERESIS"),
   (0x04DC, "bCAPITAL LETTER ZHE WITH DIAERESISbSMALL LETTER ZHE WITH DIAERESIS"),
   (0x04DE, "bCAPITAL LETTER ZE WITH DIAERESISbSMALL LETTER ZE WITH DIAERESIS"),
   (0x04E0, "bCAPITAL LETTER ABKHASIAN DZEbSMALL LETTER ABKHASIAN DZE"),
   (0x04E2, "bCAPITAL LETTER I WITH MACRONbSMALL LETTER I WITH MACRON"),
   (0x04E4, "bCAPITAL LETTER I WITH DIAERESISbSMALL LETTER I WITH DIAERESIS"),
   (0x04E6, "bCAPITAL LETTER O WITH DIAERESISbSMALL LETTER O WITH DIAERESIS"),
   (0x04E8, "bCAPITAL LETTER BARRED ObSMALL LETTER BARRED O"),
   (0x04EA, "bCAPITAL LETTER BARRED O WITH DIAERESISbSMALL LETTER BARRED O WITH DIAERESIS"),
   (0x04EC, "bCAPITAL LETTER E WITH DIAERESISbSMALL LETTER E WITH DIAERESIS"),
   (0x04EE, "bCAPITAL LETTER U WITH MACRONbSMALL LETTER U WITH MACRON"),
   (0x04F0, "bCAPITAL LETTER U WITH DIAERESISbSMALL LETTER U WITH DIAERESIS"),
   (0x04F2, "bCAPITAL LETTER U WITH DOUBLE ACUTEbSMALL LETTER U WITH DOUBLE ACUTE"),
   (0x04F4, "bCAPITAL LETTER CHE WITH DIAERESISbSMALL LETTER CHE WITH DIAERESIS"),
   (0x04F6, "bCAPITAL LETTER GHE WITH DESCENDERbSMALL LETTER GHE WITH DESCENDER"),
   (0x04F8, "bCAPITAL LETTER YERU WITH DIAERESISbSMALL LETTER YERU WITH DIAERESIS"),
   (0x04FA, "bCAPITAL LETTER GHE WITH STROKE AND HOOKbSMALL LETTER GHE WITH STROKE AND HOOK"),
   (0x04FC, "bCAPITAL LETTER HA WITH HOOKbSMALL LETTER HA WITH HOOK"),
   (0x04FE, "bCAPITAL LETTER HA WITH STROKEbSMALL LETTER HA WITH STROKE"),
   (0x0500, "bCAPITAL LETTER KOMI DEbSMALL LETTER KOMI DEbCAPITAL LETTER KOMI DJE"),
   (0x0503, "bSMALL LETTER KOMI DJEbCAPITAL LETTER KOMI ZJEbSMALL LETTER KOMI ZJE"),
   (0x0506, "bCAPITAL LETTER KOMI DZJEbSMALL LETTER KOMI DZJEbCAPITAL LETTER KOMI LJE"),
   (0x0509, "bSMALL LETTER KOMI LJEbCAPITAL LETTER KOMI NJEbSMALL LETTER KOMI NJE"),
   (0x050C, "bCAPITAL LETTER KOMI SJEbSMALL LETTER KOMI SJEbCAPITAL LETTER KOMI TJE"),
   (0x050F, "bSMALL LETTER KOMI TJEbCAPITAL LETTER REVERSED ZEbSMALL LETTER REVERSED ZE"),
   (0x0512, "bCAPITAL LETTER EL WITH HOOKbSMALL LETTER EL WITH HOOKbCAPITAL LETTER LHA"),
   (0x0515, "bSMALL LETTER LHAbCAPITAL LETTER RHAbSMALL LETTER RHAbCAPITAL LETTER YAE"),
   (0x0519, "bSMALL LETTER YAEbCAPITAL LETTER QAbSMALL LETTER QAbCAPITAL LETTER WE"),
   (0x051D, "bSMALL LETTER WEbCAPITAL LETTER ALEUT KAbSMALL LETTER ALEUT KA"),
   (0x0520, "bCAPITAL LETTER EL WITH MIDDLE HOOKbSMALL LETTER EL WITH MIDDLE HOOK"),
   (0x0522, "bCAPITAL LETTER EN WITH MIDDLE HOOKbSMALL LETTER EN WITH MIDDLE HOOK"),
   (0x0524, "bCAPITAL LETTER PE WITH DESCENDERbSMALL LETTER PE WITH DESCENDER"),
   (0x0526, "bCAPITAL LETTER SHHA WITH DESCENDERbSMALL LETTER SHHA WITH DESCENDER"),
   (0x0528, "bCAPITAL LETTER EN WITH LEFT HOOKbSMALL LETTER EN WITH LEFT HOOK"),
   (0x052A, "bCAPITAL LETTER DZZHEbSMALL LETTER DZZHEbCAPITAL LETTER DCHEbSMALL LETTER DCHE"),
   (0x052E, "bCAPITAL LETTER EL WITH DESCENDERbSMALL LETTER EL WITH DESCENDER"),
   (0x0531, "aARMENIAN CAPITAL LETTER AYBdBENdGIMdDAdECHdZAdEHdETdTOdZHEdINIdLIWNdXEHdCA"),
   (0x053F, "dKENdHOdJAdGHADdCHEHdMENdYIdNOWdSHAdVOdCHAdPEHdJHEHdRAdSEHdVEWdTIWNdREHdCO"),
   (0x0552, "dYIWNdPIWRdKEHdOHdFEH"),
   (0x0559, "bMODIFIER LETTER LEFT HALF RINGbAPOSTROPHEbEMPHASIS MARKbEXCLAMATION MARK"),
   (0x055D, "bCOMMAbQUESTION MARKbABBREVIATION MARKbSMALL LETTER TURNED AYBdAYBdBENdGIMdDA"),
   (0x0565, "dECHdZAdEHdETdTOdZHEdINIdLIWNdXEHdCAdKENdHOdJAdGHADdCHEHdMENdYIdNOWdSHAdVOdCHA"),
   (0x057A, "dPEHdJHEHdRAdSEHdVEWdTIWNdREHdCOdYIWNdPIWRdKEHdOHdFEHcLIGATURE ECH YIWN"),
   (0x0588, "cLETTER YI WITH STROKEbFULL STOPbHYPHEN"),
   (0x058D, "aRIGHT-FACING ARMENIAN ETERNITY SIGNaLEFT-FACING ARMENIAN ETERNITY SIGN"),
   (0x058F, "aARMENIAN DRAM SIGN")]

end RecordAudit.Text.CharacterName

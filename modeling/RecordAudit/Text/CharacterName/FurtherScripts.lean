/-!
# Names of letters and signs from Glagolitic to Meetei Mayek

The characters from U+2C00 to U+F8FF, but for those that are named by a rule. Each line gives the
code point of its first name; the names of the characters after it follow, each behind a small
letter that tells how many words it shares with the name before it.
-/

namespace RecordAudit.Text.CharacterName

def furtherScripts : List (Nat × String) :=
  [(0x2C00, "aGLAGOLITIC CAPITAL LETTER AZUdBUKYdVEDEdGLAGOLIdDOBROdYESTUdZHIVETEdDZELO"),
   (0x2C08, "dZEMLJAdIZHEdINITIAL IZHEdIdDJERVIdKAKOdLJUDIJEdMYSLITEdNASHIdONUdPOKOJIdRITSI"),
   (0x2C14, "dSLOVOdTVRIDOdUKUdFRITUdHERUdOTUdPEdSHTAdTSIdCHRIVIdSHAdYERUdYERIdYATI"),
   (0x2C22, "dSPIDERY HAdYUdSMALL YUSeYUS WITH TAILdYOdIOTATED SMALL YUSdBIG YUS"),
   (0x2C29, "dIOTATED BIG YUSdFITAdIZHITSAdSHTAPICdTROKUTASTI AdLATINATE MYSLITE"),
   (0x2C2F, "dCAUDATE CHRIVIbSMALL LETTER AZUdBUKYdVEDEdGLAGOLIdDOBROdYESTUdZHIVETEdDZELO"),
   (0x2C38, "dZEMLJAdIZHEdINITIAL IZHEdIdDJERVIdKAKOdLJUDIJEdMYSLITEdNASHIdONUdPOKOJIdRITSI"),
   (0x2C44, "dSLOVOdTVRIDOdUKUdFRITUdHERUdOTUdPEdSHTAdTSIdCHRIVIdSHAdYERUdYERIdYATI"),
   (0x2C52, "dSPIDERY HAdYUdSMALL YUSeYUS WITH TAILdYOdIOTATED SMALL YUSdBIG YUS"),
   (0x2C59, "dIOTATED BIG YUSdFITAdIZHITSAdSHTAPICdTROKUTASTI AdLATINATE MYSLITE"),
   (0x2C5F, "dCAUDATE CHRIVIaLATIN CAPITAL LETTER L WITH DOUBLE BAR"),
   (0x2C61, "bSMALL LETTER L WITH DOUBLE BARbCAPITAL LETTER L WITH MIDDLE TILDE"),
   (0x2C63, "dP WITH STROKEdR WITH TAILbSMALL LETTER A WITH STROKEdT WITH DIAGONAL STROKE"),
   (0x2C67, "bCAPITAL LETTER H WITH DESCENDERbSMALL LETTER H WITH DESCENDER"),
   (0x2C69, "bCAPITAL LETTER K WITH DESCENDERbSMALL LETTER K WITH DESCENDER"),
   (0x2C6B, "bCAPITAL LETTER Z WITH DESCENDERbSMALL LETTER Z WITH DESCENDER"),
   (0x2C6D, "bCAPITAL LETTER ALPHAdM WITH HOOKdTURNED AeALPHA"),
   (0x2C71, "bSMALL LETTER V WITH RIGHT HOOKbCAPITAL LETTER W WITH HOOK"),
   (0x2C73, "bSMALL LETTER W WITH HOOKdV WITH CURLbCAPITAL LETTER HALF H"),
   (0x2C76, "bSMALL LETTER HALF HdTAILLESS PHIdE WITH NOTCHdTURNED R WITH TAIL"),
   (0x2C7A, "dO WITH LOW RING INSIDEbLETTER SMALL CAPITAL TURNED EbSUBSCRIPT SMALL LETTER J"),
   (0x2C7D, "aMODIFIER LETTER CAPITAL VaLATIN CAPITAL LETTER S WITH SWASH TAIL"),
   (0x2C7F, "dZ WITH SWASH TAILaCOPTIC CAPITAL LETTER ALFAbSMALL LETTER ALFA"),
   (0x2C82, "bCAPITAL LETTER VIDAbSMALL LETTER VIDAbCAPITAL LETTER GAMMAbSMALL LETTER GAMMA"),
   (0x2C86, "bCAPITAL LETTER DALDAbSMALL LETTER DALDAbCAPITAL LETTER EIEbSMALL LETTER EIE"),
   (0x2C8A, "bCAPITAL LETTER SOUbSMALL LETTER SOUbCAPITAL LETTER ZATAbSMALL LETTER ZATA"),
   (0x2C8E, "bCAPITAL LETTER HATEbSMALL LETTER HATEbCAPITAL LETTER THETHE"),
   (0x2C91, "bSMALL LETTER THETHEbCAPITAL LETTER IAUDAbSMALL LETTER IAUDA"),
   (0x2C94, "bCAPITAL LETTER KAPAbSMALL LETTER KAPAbCAPITAL LETTER LAULAbSMALL LETTER LAULA"),
   (0x2C98, "bCAPITAL LETTER MIbSMALL LETTER MIbCAPITAL LETTER NIbSMALL LETTER NI"),
   (0x2C9C, "bCAPITAL LETTER KSIbSMALL LETTER KSIbCAPITAL LETTER ObSMALL LETTER O"),
   (0x2CA0, "bCAPITAL LETTER PIbSMALL LETTER PIbCAPITAL LETTER RObSMALL LETTER RO"),
   (0x2CA4, "bCAPITAL LETTER SIMAbSMALL LETTER SIMAbCAPITAL LETTER TAUbSMALL LETTER TAU"),
   (0x2CA8, "bCAPITAL LETTER UAbSMALL LETTER UAbCAPITAL LETTER FIbSMALL LETTER FI"),
   (0x2CAC, "bCAPITAL LETTER KHIbSMALL LETTER KHIbCAPITAL LETTER PSIbSMALL LETTER PSI"),
   (0x2CB0, "bCAPITAL LETTER OOUbSMALL LETTER OOUbCAPITAL LETTER DIALECT-P ALEF"),
   (0x2CB3, "bSMALL LETTER DIALECT-P ALEFbCAPITAL LETTER OLD COPTIC AIN"),
   (0x2CB5, "bSMALL LETTER OLD COPTIC AINbCAPITAL LETTER CRYPTOGRAMMIC EIE"),
   (0x2CB7, "bSMALL LETTER CRYPTOGRAMMIC EIEbCAPITAL LETTER DIALECT-P KAPA"),
   (0x2CB9, "bSMALL LETTER DIALECT-P KAPAbCAPITAL LETTER DIALECT-P NI"),
   (0x2CBB, "bSMALL LETTER DIALECT-P NIbCAPITAL LETTER CRYPTOGRAMMIC NI"),
   (0x2CBD, "bSMALL LETTER CRYPTOGRAMMIC NIbCAPITAL LETTER OLD COPTIC OOU"),
   (0x2CBF, "bSMALL LETTER OLD COPTIC OOUbCAPITAL LETTER SAMPIbSMALL LETTER SAMPI"),
   (0x2CC2, "bCAPITAL LETTER CROSSED SHEIbSMALL LETTER CROSSED SHEI"),
   (0x2CC4, "bCAPITAL LETTER OLD COPTIC SHEIbSMALL LETTER OLD COPTIC SHEI"),
   (0x2CC6, "bCAPITAL LETTER OLD COPTIC ESHbSMALL LETTER OLD COPTIC ESH"),
   (0x2CC8, "bCAPITAL LETTER AKHMIMIC KHEIbSMALL LETTER AKHMIMIC KHEI"),
   (0x2CCA, "bCAPITAL LETTER DIALECT-P HORIbSMALL LETTER DIALECT-P HORI"),
   (0x2CCC, "bCAPITAL LETTER OLD COPTIC HORIbSMALL LETTER OLD COPTIC HORI"),
   (0x2CCE, "bCAPITAL LETTER OLD COPTIC HAbSMALL LETTER OLD COPTIC HA"),
   (0x2CD0, "bCAPITAL LETTER L-SHAPED HAbSMALL LETTER L-SHAPED HA"),
   (0x2CD2, "bCAPITAL LETTER OLD COPTIC HEIbSMALL LETTER OLD COPTIC HEI"),
   (0x2CD4, "bCAPITAL LETTER OLD COPTIC HATbSMALL LETTER OLD COPTIC HAT"),
   (0x2CD6, "bCAPITAL LETTER OLD COPTIC GANGIAbSMALL LETTER OLD COPTIC GANGIA"),
   (0x2CD8, "bCAPITAL LETTER OLD COPTIC DJAbSMALL LETTER OLD COPTIC DJA"),
   (0x2CDA, "bCAPITAL LETTER OLD COPTIC SHIMAbSMALL LETTER OLD COPTIC SHIMA"),
   (0x2CDC, "bCAPITAL LETTER OLD NUBIAN SHIMAbSMALL LETTER OLD NUBIAN SHIMA"),
   (0x2CDE, "bCAPITAL LETTER OLD NUBIAN NGIbSMALL LETTER OLD NUBIAN NGI"),
   (0x2CE0, "bCAPITAL LETTER OLD NUBIAN NYIbSMALL LETTER OLD NUBIAN NYI"),
   (0x2CE2, "bCAPITAL LETTER OLD NUBIAN WAUbSMALL LETTER OLD NUBIAN WAUbSYMBOL KAIcMI RO"),
   (0x2CE6, "cPI ROcSTAUROScTAU ROcKHI ROcSHIMA SIMAbCAPITAL LETTER CRYPTOGRAMMIC SHEI"),
   (0x2CEC, "bSMALL LETTER CRYPTOGRAMMIC SHEIbCAPITAL LETTER CRYPTOGRAMMIC GANGIA"),
   (0x2CEE, "bSMALL LETTER CRYPTOGRAMMIC GANGIAbCOMBINING NI ABOVEcSPIRITUS ASPERdLENIS"),
   (0x2CF2, "bCAPITAL LETTER BOHAIRIC KHEIbSMALL LETTER BOHAIRIC KHEI"),
   (0x2CF9, "bOLD NUBIAN FULL STOPdDIRECT QUESTION MARKdINDIRECT QUESTION MARK"),
   (0x2CFC, "dVERSE DIVIDERbFRACTION ONE HALFbFULL STOPbMORPHOLOGICAL DIVIDER"),
   (0x2D00, "aGEORGIAN SMALL LETTER ANdBANdGANdDONdENdVINdZENdTANdINdKANdLASdMANdNARdONdPAR"),
   (0x2D0F, "dZHARdRAEdSANdTARdUNdPHARdKHARdGHANdQARdSHINdCHINdCANdJILdCILdCHARdXANdJHAN"),
   (0x2D20, "dHAEdHEdHIEdWEdHARdHOE"),
   (0x2D27, "dYN"),
   (0x2D2D, "dAEN"),
   (0x2D30, "aTIFINAGH LETTER YAcYABcYABHcYAGcYAGHHcBERBER ACADEMY YAJcYAJcYADcYADHcYADD"),
   (0x2D3A, "cYADDHcYEYcYAFcYAKcTUAREG YAKcYAKHHcYAHcBERBER ACADEMY YAHcTUAREG YAHcYAHHcYAA"),
   (0x2D45, "cYAKHcTUAREG YAKHcYAQcTUAREG YAQcYIcYAZHcAHAGGAR YAZHcTUAREG YAZHcYALcYAMcYAN"),
   (0x2D50, "cTUAREG YAGNdYANGcYAPcYUcYARcYARRcYAGHcTUAREG YAGHcAYER YAGHcYAScYASScYASHcYAT"),
   (0x2D5D, "cYATHcYACHcYATTcYAVcYAWcYAYcYAZcTAWELLEMET YAZcYAZZcYEcYO"),
   (0x2D6F, "bMODIFIER LETTER LABIALIZATION MARKbSEPARATOR MARK"),
   (0x2D7F, "bCONSONANT JOINERaETHIOPIC SYLLABLE LOAcMOAcROAcSOAcSHOAcBOAcTOAcCOAcNOAcNYOA"),
   (0x2D8A, "cGLOTTAL OAcZOAcDOAcDDOAcJOAcTHOAcCHOAcPHOAcPOAcGGWAcGGWIcGGWEEcGGWE"),
   (0x2DA0, "cSSAcSSUcSSIcSSAAcSSEEcSSEcSSO"),
   (0x2DA8, "cCCAcCCUcCCIcCCAAcCCEEcCCEcCCO"),
   (0x2DB0, "cZZAcZZUcZZIcZZAAcZZEEcZZEcZZO"),
   (0x2DB8, "cCCHAcCCHUcCCHIcCCHAAcCCHEEcCCHEcCCHO"),
   (0x2DC0, "cQYAcQYUcQYIcQYAAcQYEEcQYEcQYO"),
   (0x2DC8, "cKYAcKYUcKYIcKYAAcKYEEcKYEcKYO"),
   (0x2DD0, "cXYAcXYUcXYIcXYAAcXYEEcXYEcXYO"),
   (0x2DD8, "cGYAcGYUcGYIcGYAAcGYEEcGYEcGYO"),
   (0x2DE0, "aCOMBINING CYRILLIC LETTER BEdVEdGHEdDEdZHEdZEdKAdELdEMdENdOdPEdERdESdTEdHA"),
   (0x2DF0, "dTSEdCHEdSHAdSHCHAdFITAdES-TEdAdIEdDJERVdMONOGRAPH UKdYATdYUdIOTIFIED A"),
   (0x2DFD, "dLITTLE YUSdBIG YUSdIOTIFIED BIG YUSaRIGHT ANGLE SUBSTITUTION MARKER"),
   (0x2E01, "cDOTTED SUBSTITUTION MARKERaLEFT SUBSTITUTION BRACKET"),
   (0x2E03, "aRIGHT SUBSTITUTION BRACKETaLEFT DOTTED SUBSTITUTION BRACKET"),
   (0x2E05, "aRIGHT DOTTED SUBSTITUTION BRACKETaRAISED INTERPOLATION MARKER"),
   (0x2E07, "bDOTTED INTERPOLATION MARKERaDOTTED TRANSPOSITION MARKER"),
   (0x2E09, "aLEFT TRANSPOSITION BRACKETaRIGHT TRANSPOSITION BRACKETaRAISED SQUARE"),
   (0x2E0C, "aLEFT RAISED OMISSION BRACKETaRIGHT RAISED OMISSION BRACKETaEDITORIAL CORONIS"),
   (0x2E0F, "aPARAGRAPHOSaFORKED PARAGRAPHOSaREVERSED FORKED PARAGRAPHOSaHYPODIASTOLE"),
   (0x2E13, "aDOTTED OBELOSaDOWNWARDS ANCORAaUPWARDS ANCORAaDOTTED RIGHT-POINTING ANGLE"),
   (0x2E17, "aDOUBLE OBLIQUE HYPHENaINVERTED INTERROBANGaPALM BRANCHaHYPHEN WITH DIAERESIS"),
   (0x2E1B, "aTILDE WITH RING ABOVEaLEFT LOW PARAPHRASE BRACKET"),
   (0x2E1D, "aRIGHT LOW PARAPHRASE BRACKETaTILDE WITH DOT ABOVEdBELOW"),
   (0x2E20, "aLEFT VERTICAL BAR WITH QUILLaRIGHT VERTICAL BAR WITH QUILL"),
   (0x2E22, "aTOP LEFT HALF BRACKETbRIGHT HALF BRACKETaBOTTOM LEFT HALF BRACKET"),
   (0x2E25, "bRIGHT HALF BRACKETaLEFT SIDEWAYS U BRACKETaRIGHT SIDEWAYS U BRACKET"),
   (0x2E28, "aLEFT DOUBLE PARENTHESISaRIGHT DOUBLE PARENTHESIS"),
   (0x2E2A, "aTWO DOTS OVER ONE DOT PUNCTUATIONaONE DOT OVER TWO DOTS PUNCTUATION"),
   (0x2E2C, "aSQUARED FOUR DOT PUNCTUATIONaFIVE DOT MARKaREVERSED QUESTION MARK"),
   (0x2E2F, "aVERTICAL TILDEaRING POINTaWORD SEPARATOR MIDDLE DOTaTURNED COMMAaRAISED DOT"),
   (0x2E34, "bCOMMAaTURNED SEMICOLONaDAGGER WITH LEFT GUARDcRIGHT GUARDaTURNED DAGGER"),
   (0x2E39, "aTOP HALF SECTION SIGNaTWO-EM DASHaTHREE-EM DASHaSTENOGRAPHIC FULL STOP"),
   (0x2E3D, "aVERTICAL SIX DOTSaWIGGLY VERTICAL LINEaCAPITULUMaDOUBLE HYPHENaREVERSED COMMA"),
   (0x2E42, "aDOUBLE LOW-REVERSED-9 QUOTATION MARKaDASH WITH LEFT UPTURN"),
   (0x2E44, "aDOUBLE SUSPENSION MARKaINVERTED LOW KAVYKAcKAVYKA WITH KAVYKA ABOVE"),
   (0x2E47, "aLOW KAVYKAbKAVYKA WITH DOTaDOUBLE STACKED COMMAaDOTTED SOLIDUSaTRIPLE DAGGER"),
   (0x2E4C, "aMEDIEVAL COMMAaPARAGRAPHUS MARKaPUNCTUS ELEVATUS MARKaCORNISH VERSE DIVIDER"),
   (0x2E50, "aCROSS PATTY WITH RIGHT CROSSBARdLEFT CROSSBARaTIRONIAN SIGN CAPITAL ET"),
   (0x2E53, "aMEDIEVAL EXCLAMATION MARKbQUESTION MARKaLEFT SQUARE BRACKET WITH STROKE"),
   (0x2E56, "aRIGHT SQUARE BRACKET WITH STROKEaLEFT SQUARE BRACKET WITH DOUBLE STROKE"),
   (0x2E58, "aRIGHT SQUARE BRACKET WITH DOUBLE STROKEaTOP HALF LEFT PARENTHESIS"),
   (0x2E5A, "cRIGHT PARENTHESISaBOTTOM HALF LEFT PARENTHESIScRIGHT PARENTHESIS"),
   (0x2E5D, "aOBLIQUE HYPHEN"),
   (0x2E80, "aCJK RADICAL REPEATcCLIFFcSECOND ONEdTWOdTHREEcPERSONcBOXcTABLEcKNIFE ONEdTWO"),
   (0x2E8A, "cDIVINATIONcSEALcSMALL ONEdTWOcLAME ONEdTWOdTHREEdFOURcSNAKEcTHREADcSNOUT ONE"),
   (0x2E95, "dTWOcHEART ONEdTWOcHANDcRAP"),
   (0x2E9B, "cCHOKEcSUNcMOONcDEATHcMOTHERcCIVILIANcWATER ONEdTWOcFIREcPAW ONEdTWO"),
   (0x2EA6, "cSIMPLIFIED HALF TREE TRUNKcCOWcDOGcJADEcBOLT OF CLOTHcEYEcSPIRIT ONEdTWO"),
   (0x2EAE, "cBAMBOOcSILKcC-SIMPLIFIED SILKcNET ONEdTWOdTHREEdFOURcMESHcSHEEPcRAMcEWEcOLD"),
   (0x2EBA, "cBRUSH ONEdTWOcMEATcMORTARcGRASS ONEdTWOdTHREEcTIGERcCLOTHEScWEST ONEdTWO"),
   (0x2EC5, "cC-SIMPLIFIED SEEcSIMPLIFIED HORNcHORNcC-SIMPLIFIED SPEECHeSHELLcFOOT"),
   (0x2ECB, "cC-SIMPLIFIED CARTcSIMPLIFIED WALKcWALK ONEdTWOcCITYcC-SIMPLIFIED GOLD"),
   (0x2ED1, "cLONG ONEdTWOcC-SIMPLIFIED LONGeGATEcMOUND ONEdTWOcRAINcBLUE"),
   (0x2ED9, "cC-SIMPLIFIED TANNED LEATHEReLEAFeWINDeFLYcEAT ONEdTWOdTHREEcC-SIMPLIFIED EAT"),
   (0x2EE1, "cHEADcC-SIMPLIFIED HORSEcBONEcGHOSTcC-SIMPLIFIED FISHeBIRDeSALT"),
   (0x2EE8, "cSIMPLIFIED WHEATdYELLOWcC-SIMPLIFIED FROGcJ-SIMPLIFIED EVENcC-SIMPLIFIED EVEN"),
   (0x2EED, "cJ-SIMPLIFIED TOOTHcC-SIMPLIFIED TOOTHcJ-SIMPLIFIED DRAGONcC-SIMPLIFIED DRAGON"),
   (0x2EF1, "cTURTLEcJ-SIMPLIFIED TURTLEcC-SIMPLIFIED TURTLE"),
   (0x2F00, "aKANGXI RADICAL ONEcLINEcDOTcSLASHcSECONDcHOOKcTWOcLIDcMANcLEGScENTERcEIGHT"),
   (0x2F0C, "cDOWN BOXcCOVERcICEcTABLEcOPEN BOXcKNIFEcPOWERcWRAPcSPOONcRIGHT OPEN BOX"),
   (0x2F16, "cHIDING ENCLOSUREcTENcDIVINATIONcSEALcCLIFFcPRIVATEcAGAINcMOUTHcENCLOSURE"),
   (0x2F1F, "cEARTHcSCHOLARcGOcGO SLOWLYcEVENINGcBIGcWOMANcCHILDcROOFcINCHcSMALLcLAME"),
   (0x2F2B, "cCORPSEcSPROUTcMOUNTAINcRIVERcWORKcONESELFcTURBANcDRYcSHORT THREAD"),
   (0x2F34, "cDOTTED CLIFFcLONG STRIDEcTWO HANDScSHOOTcBOWcSNOUTcBRISTLEcSTEPcHEARTcHALBERD"),
   (0x2F3E, "cDOORcHANDcBRANCHcRAPcSCRIPTcDIPPERcAXEcSQUAREcNOTcSUNcSAYcMOONcTREEcLACKcSTOP"),
   (0x2F4D, "cDEATHcWEAPONcDO NOTcCOMPAREcFURcCLANcSTEAMcWATERcFIREcCLAWcFATHERcDOUBLE X"),
   (0x2F59, "cHALF TREE TRUNKcSLICEcFANGcCOWcDOGcPROFOUNDcJADEcMELONcTILEcSWEETcLIFEcUSE"),
   (0x2F65, "cFIELDcBOLT OF CLOTHcSICKNESScDOTTED TENTcWHITEcSKINcDISHcEYEcSPEARcARROW"),
   (0x2F6F, "cSTONEcSPIRITcTRACKcGRAINcCAVEcSTANDcBAMBOOcRICEcSILKcJARcNETcSHEEPcFEATHER"),
   (0x2F7C, "cOLDcANDcPLOWcEARcBRUSHcMEATcMINISTERcSELFcARRIVEcMORTARcTONGUEcOPPOSEcBOAT"),
   (0x2F89, "cSTOPPINGcCOLORcGRASScTIGERcINSECTcBLOODcWALK ENCLOSUREcCLOTHEScWESTcSEEcHORN"),
   (0x2F94, "cSPEECHcVALLEYcBEANcPIGcBADGERcSHELLcREDcRUNcFOOTcBODYcCARTcBITTERcMORNING"),
   (0x2FA1, "cWALKcCITYcWINEcDISTINGUISHcVILLAGEcGOLDcLONGcGATEcMOUNDcSLAVE"),
   (0x2FAB, "cSHORT TAILED BIRDcRAINcBLUEcWRONGcFACEcLEATHERcTANNED LEATHERcLEEKcSOUNDcLEAF"),
   (0x2FB5, "cWINDcFLYcEATcHEADcFRAGRANTcHORSEcBONEcTALLcHAIRcFIGHTcSACRIFICIAL WINE"),
   (0x2FC0, "cCAULDRONcGHOSTcFISHcBIRDcSALTcDEERcWHEATcHEMPcYELLOWcMILLETcBLACKcEMBROIDERY"),
   (0x2FCC, "cFROGcTRIPODcDRUMcRATcNOSEcEVENcTOOTHcDRAGONcTURTLEcFLUTE"),
   (0x2FF0, "aIDEOGRAPHIC DESCRIPTION CHARACTER LEFT TO RIGHTdABOVE TO BELOW"),
   (0x2FF2, "dLEFT TO MIDDLE AND RIGHTdABOVE TO MIDDLE AND BELOWdFULL SURROUND"),
   (0x2FF5, "dSURROUND FROM ABOVEfBELOWfLEFTfUPPER LEFTgRIGHTfLOWER LEFTdOVERLAID"),
   (0x3000, "bSPACEbCOMMAbFULL STOPaDITTO MARKaJAPANESE INDUSTRIAL STANDARD SYMBOL"),
   (0x3005, "aIDEOGRAPHIC ITERATION MARKbCLOSING MARKbNUMBER ZEROaLEFT ANGLE BRACKET"),
   (0x3009, "aRIGHT ANGLE BRACKETaLEFT DOUBLE ANGLE BRACKETaRIGHT DOUBLE ANGLE BRACKET"),
   (0x300C, "aLEFT CORNER BRACKETaRIGHT CORNER BRACKETaLEFT WHITE CORNER BRACKET"),
   (0x300F, "aRIGHT WHITE CORNER BRACKETaLEFT BLACK LENTICULAR BRACKET"),
   (0x3011, "aRIGHT BLACK LENTICULAR BRACKETaPOSTAL MARKaGETA MARK"),
   (0x3014, "aLEFT TORTOISE SHELL BRACKETaRIGHT TORTOISE SHELL BRACKET"),
   (0x3016, "aLEFT WHITE LENTICULAR BRACKETaRIGHT WHITE LENTICULAR BRACKET"),
   (0x3018, "aLEFT WHITE TORTOISE SHELL BRACKETaRIGHT WHITE TORTOISE SHELL BRACKET"),
   (0x301A, "aLEFT WHITE SQUARE BRACKETaRIGHT WHITE SQUARE BRACKETaWAVE DASH"),
   (0x301D, "aREVERSED DOUBLE PRIME QUOTATION MARKaDOUBLE PRIME QUOTATION MARK"),
   (0x301F, "aLOW DOUBLE PRIME QUOTATION MARKaPOSTAL MARK FACEaHANGZHOU NUMERAL ONEcTWO"),
   (0x3023, "cTHREEcFOURcFIVEcSIXcSEVENcEIGHTcNINEaIDEOGRAPHIC LEVEL TONE MARK"),
   (0x302B, "bRISING TONE MARKbDEPARTING TONE MARKbENTERING TONE MARK"),
   (0x302E, "aHANGUL SINGLE DOT TONE MARKbDOUBLE DOT TONE MARKaWAVY DASH"),
   (0x3031, "aVERTICAL KANA REPEAT MARKdWITH VOICED SOUND MARKdMARK UPPER HALF"),
   (0x3034, "dWITH VOICED SOUND MARK UPPER HALFdMARK LOWER HALFaCIRCLED POSTAL MARK"),
   (0x3037, "aIDEOGRAPHIC TELEGRAPH LINE FEED SEPARATOR SYMBOLaHANGZHOU NUMERAL TENcTWENTY"),
   (0x303A, "cTHIRTYaVERTICAL IDEOGRAPHIC ITERATION MARKaMASU MARKaPART ALTERNATION MARK"),
   (0x303E, "aIDEOGRAPHIC VARIATION INDICATORbHALF FILL SPACE"),
   (0x3041, "aHIRAGANA LETTER SMALL AcAcSMALL IcIcSMALL UcUcSMALL EcEcSMALL OcOcKAcGAcKIcGI"),
   (0x304F, "cKUcGUcKEcGEcKOcGOcSAcZAcSIcZIcSUcZUcSEcZEcSOcZOcTAcDAcTIcDIcSMALL TUcTUcDUcTE"),
   (0x3067, "cDEcTOcDOcNAcNIcNUcNEcNOcHAcBAcPAcHIcBIcPIcHUcBUcPUcHEcBEcPEcHOcBOcPOcMAcMIcMU"),
   (0x3081, "cMEcMOcSMALL YAcYAcSMALL YUcYUcSMALL YOcYOcRAcRIcRUcREcROcSMALL WAcWAcWIcWEcWO"),
   (0x3093, "cNcVUcSMALL KAdKE"),
   (0x3099, "aCOMBINING KATAKANA-HIRAGANA VOICED SOUND MARKdSEMI-VOICED SOUND MARK"),
   (0x309B, "aKATAKANA-HIRAGANA VOICED SOUND MARKcSEMI-VOICED SOUND MARK"),
   (0x309D, "aHIRAGANA ITERATION MARKbVOICED ITERATION MARKbDIGRAPH YORI"),
   (0x30A0, "aKATAKANA-HIRAGANA DOUBLE HYPHENaKATAKANA LETTER SMALL AcAcSMALL IcIcSMALL UcU"),
   (0x30A7, "cSMALL EcEcSMALL OcOcKAcGAcKIcGIcKUcGUcKEcGEcKOcGOcSAcZAcSIcZIcSUcZUcSEcZEcSO"),
   (0x30BE, "cZOcTAcDAcTIcDIcSMALL TUcTUcDUcTEcDEcTOcDOcNAcNIcNUcNEcNOcHAcBAcPAcHIcBIcPIcHU"),
   (0x30D6, "cBUcPUcHEcBEcPEcHOcBOcPOcMAcMIcMUcMEcMOcSMALL YAcYAcSMALL YUcYUcSMALL YOcYOcRA"),
   (0x30EA, "cRIcRUcREcROcSMALL WAcWAcWIcWEcWOcNcVUcSMALL KAdKEcVAcVIcVEcVObMIDDLE DOT"),
   (0x30FC, "aKATAKANA-HIRAGANA PROLONGED SOUND MARKaKATAKANA ITERATION MARK"),
   (0x30FE, "bVOICED ITERATION MARKbDIGRAPH KOTO"),
   (0x3105, "aBOPOMOFO LETTER BcPcMcFcDcTcNcLcGcKcHcJcQcXcZHcCHcSHcRcZcCcScAcOcEcEHcAIcEI"),
   (0x3120, "cAUcOUcANcENcANGcENGcERcIcUcIUcVcNGcGNcIHcO WITH DOT ABOVEcNN"),
   (0x3131, "aHANGUL LETTER KIYEOKcSSANGKIYEOKcKIYEOK-SIOScNIEUNcNIEUN-CIEUCdHIEUHcTIKEUT"),
   (0x3138, "cSSANGTIKEUTcRIEULcRIEUL-KIYEOKdMIEUMdPIEUPdSIOSdTHIEUTHdPHIEUPHdHIEUHcMIEUM"),
   (0x3142, "cPIEUPcSSANGPIEUPcPIEUP-SIOScSIOScSSANGSIOScIEUNGcCIEUCcSSANGCIEUCcCHIEUCH"),
   (0x314B, "cKHIEUKHcTHIEUTHcPHIEUPHcHIEUHcAcAEcYAcYAEcEOcEcYEOcYEcOcWAcWAEcOEcYOcUcWEOcWE"),
   (0x315F, "cWIcYUcEUcYIcIbFILLERbLETTER SSANGNIEUNcNIEUN-TIKEUTdSIOSdPANSIOS"),
   (0x3169, "cRIEUL-KIYEOK-SIOSdTIKEUTdPIEUP-SIOSdPANSIOSdYEORINHIEUHcMIEUM-PIEUPdSIOS"),
   (0x3170, "dPANSIOScKAPYEOUNMIEUMcPIEUP-KIYEOKdTIKEUTdSIOS-KIYEOKeTIKEUTdCIEUCdTHIEUTH"),
   (0x3178, "cKAPYEOUNPIEUPcKAPYEOUNSSANGPIEUPcSIOS-KIYEOKdNIEUNdTIKEUTdPIEUPdCIEUCcPANSIOS"),
   (0x3180, "cSSANGIEUNGcYESIEUNGcYESIEUNG-SIOSdPANSIOScKAPYEOUNPHIEUPHcSSANGHIEUH"),
   (0x3186, "cYEORINHIEUHcYO-YAdYAEdIcYU-YEOdYEdIcARAEAcARAEAE"),
   (0x3190, "aIDEOGRAPHIC ANNOTATION LINKING MARKcREVERSE MARKcONE MARKcTWO MARKcTHREE MARK"),
   (0x3195, "cFOUR MARKcTOP MARKcMIDDLE MARKcBOTTOM MARKcFIRST MARKcSECOND MARKcTHIRD MARK"),
   (0x319C, "cFOURTH MARKcHEAVEN MARKcEARTH MARKcMAN MARKaBOPOMOFO LETTER BUcZIcJIcGUcEE"),
   (0x31A5, "cENNcOOcONNcIRcANNcINNcUNNcIMcNGGcAINNcAUNNcAMcOMcONGcINNNbFINAL LETTER PdTdK"),
   (0x31B7, "dHbLETTER GHcLHcZYbFINAL LETTER GbLETTER GWcKWcOEcAHaCJK STROKE TcWGcXGcBXGcSW"),
   (0x31C5, "cHZZcHZGcHPcHZWGcSZWGcHZTcHZZPcHPWGcHZWcHZZZcNcHcScPcSPcDcHZcHGcSZcSWZcSTcSG"),
   (0x31DB, "cPDcPZcTNcSZZcSWGcHXWGcHZZZGcPGcQ"),
   (0x31F0, "aKATAKANA LETTER SMALL KUdSIdSUdTOdNUdHAdHIdHUdHEdHOdMUdRAdRIdRUdREdRO"),
   (0x3200, "aPARENTHESIZED HANGUL KIYEOKcNIEUNcTIKEUTcRIEULcMIEUMcPIEUPcSIOScIEUNGcCIEUC"),
   (0x3209, "cCHIEUCHcKHIEUKHcTHIEUTHcPHIEUPHcHIEUHcKIYEOK AcNIEUN AcTIKEUT AcRIEUL A"),
   (0x3212, "cMIEUM AcPIEUP AcSIOS AcIEUNG AcCIEUC AcCHIEUCH AcKHIEUKH AcTHIEUTH A"),
   (0x321A, "cPHIEUPH AcHIEUH AcCIEUC UbKOREAN CHARACTER OJEONdO HU"),
   (0x3220, "bIDEOGRAPH ONEcTWOcTHREEcFOURcFIVEcSIXcSEVENcEIGHTcNINEcTENcMOONcFIREcWATER"),
   (0x322D, "cWOODcMETALcEARTHcSUNcSTOCKcHAVEcSOCIETYcNAMEcSPECIALcFINANCIALcCONGRATULATION"),
   (0x3238, "cLABORcREPRESENTcCALLcSTUDYcSUPERVISEcENTERPRISEcRESOURCEcALLIANCEcFESTIVAL"),
   (0x3241, "cRESTcSELFcREACHaCIRCLED IDEOGRAPH QUESTIONcKINDERGARTENcSCHOOLcKOTO"),
   (0x3248, "bNUMBER TEN ON BLACK SQUAREcTWENTY ON BLACK SQUAREcTHIRTY ON BLACK SQUARE"),
   (0x324B, "cFORTY ON BLACK SQUAREcFIFTY ON BLACK SQUAREcSIXTY ON BLACK SQUARE"),
   (0x324E, "cSEVENTY ON BLACK SQUAREcEIGHTY ON BLACK SQUAREaPARTNERSHIP SIGN"),
   (0x3251, "aCIRCLED NUMBER TWENTY ONEdTWOdTHREEdFOURdFIVEdSIXdSEVENdEIGHTdNINEcTHIRTY"),
   (0x325B, "cTHIRTY ONEdTWOdTHREEdFOURdFIVEbHANGUL KIYEOKcNIEUNcTIKEUTcRIEULcMIEUMcPIEUP"),
   (0x3266, "cSIOScIEUNGcCIEUCcCHIEUCHcKHIEUKHcTHIEUTHcPHIEUPHcHIEUHcKIYEOK AcNIEUN A"),
   (0x3270, "cTIKEUT AcRIEUL AcMIEUM AcPIEUP AcSIOS AcIEUNG AcCIEUC AcCHIEUCH AcKHIEUKH A"),
   (0x3279, "cTHIEUTH AcPHIEUPH AcHIEUH AbKOREAN CHARACTER CHAMKOdJUEUIbHANGUL IEUNG U"),
   (0x327F, "aKOREAN STANDARD SYMBOLaCIRCLED IDEOGRAPH ONEcTWOcTHREEcFOURcFIVEcSIXcSEVEN"),
   (0x3287, "cEIGHTcNINEcTENcMOONcFIREcWATERcWOODcMETALcEARTHcSUNcSTOCKcHAVEcSOCIETYcNAME"),
   (0x3295, "cSPECIALcFINANCIALcCONGRATULATIONcLABORcSECRETcMALEcFEMALEcSUITABLEcEXCELLENT"),
   (0x329E, "cPRINTcATTENTIONcITEMcRESTcCOPYcCORRECTcHIGHcCENTREcLOWcLEFTcRIGHTcMEDICINE"),
   (0x32AA, "cRELIGIONcSTUDYcSUPERVISEcENTERPRISEcRESOURCEcALLIANCEcNIGHTbNUMBER THIRTY SIX"),
   (0x32B2, "dSEVENdEIGHTdNINEcFORTYcFORTY ONEdTWOdTHREEdFOURdFIVEdSIXdSEVENdEIGHTdNINE"),
   (0x32BF, "cFIFTYaIDEOGRAPHIC TELEGRAPH SYMBOL FOR JANUARYeFEBRUARYeMARCHeAPRILeMAYeJUNE"),
   (0x32C6, "eJULYeAUGUSTeSEPTEMBEReOCTOBEReNOVEMBEReDECEMBERaSQUARE HGbERGbEV"),
   (0x32CF, "aLIMITED LIABILITY SIGNaCIRCLED KATAKANA AcIcUcEcOcKAcKIcKUcKEcKOcSAcSIcSUcSE"),
   (0x32DE, "cSOcTAcTIcTUcTEcTOcNAcNIcNUcNEcNOcHAcHIcHUcHEcHOcMAcMIcMUcMEcMOcYAcYUcYOcRAcRI"),
   (0x32F8, "cRUcREcROcWAcWIcWEcWOaSQUARE ERA NAME REIWAbAPAATObARUHUAbANPEAbAARUbININGU"),
   (0x3305, "bINTIbUONbESUKUUDObEEKAAbONSUbOOMUbKAIRIbKARATTObKARORIIbGARONbGANMAbGIGA"),
   (0x3311, "bGINIIbKYURIIbGIRUDAAbKIRObKIROGURAMUbKIROMEETORUbKIROWATTObGURAMUbGURAMUTON"),
   (0x331A, "bKURUZEIRObKUROONEbKEESUbKORUNAbKOOPObSAIKURUbSANTIIMUbSIRINGUbSENTIbSENTO"),
   (0x3324, "bDAASUbDESIbDORUbTONbNANObNOTTObHAITUbPAASENTObPAATUbBAARERUbPIASUTORUbPIKURU"),
   (0x3330, "bPIKObBIRUbHUARADDObHUIITObBUSSYERUbHURANbHEKUTAARUbPESObPENIHIbHERUTUbPENSU"),
   (0x333B, "bPEEZIbBEETAbPOINTObBORUTObHONbPONDObHOORUbHOONbMAIKURObMAIRUbMAHHAbMARUKU"),
   (0x3347, "bMANSYONbMIKURONbMIRIbMIRIBAARUbMEGAbMEGATONbMEETORUbYAADObYAARUbYUANbRITTORU"),
   (0x3352, "bRIRAbRUPIIbRUUBURUbREMUbRENTOGENbWATTO"),
   (0x3358, "aIDEOGRAPHIC TELEGRAPH SYMBOL FOR HOUR ZEROfONEfTWOfTHREEfFOURfFIVEfSIXfSEVEN"),
   (0x3360, "fEIGHTfNINEfTENfELEVENfTWELVEfTHIRTEENfFOURTEENfFIFTEENfSIXTEENfSEVENTEEN"),
   (0x336A, "fEIGHTEENfNINETEENfTWENTYfTWENTY-ONEgTWOgTHREEgFOURaSQUARE HPAbDAbAUbBARbOVbPC"),
   (0x3377, "bDMbDM SQUAREDcCUBEDbIUbERA NAME HEISEIdSYOUWAdTAISYOUdMEIZIbCORPORATION"),
   (0x3380, "bPA AMPSbNAbMU AbMAbKAbKBbMBbGBbCALbKCALbPFbNFbMU FcGbMGbKGbHZbKHZbMHZbGHZbTHZ"),
   (0x3395, "bMU LbMLbDLbKLbFMbNMbMU MbMMbCMbKMbMM SQUAREDbCM SQUAREDbM SQUAREDbKM SQUARED"),
   (0x33A3, "bMM CUBEDbCM CUBEDbM CUBEDbKM CUBEDbM OVER SdS SQUAREDbPAbKPAbMPAbGPAbRAD"),
   (0x33AE, "bRAD OVER SdS SQUAREDbPSbNSbMU SbMSbPVbNVbMU VbMVbKVbMV MEGAbPWbNWbMU WbMWbKW"),
   (0x33BF, "bMW MEGAbK OHMbM OHMbAMbBQbCCbCDbC OVER KGbCObDBbGYbHAbHPbINbKKbKM CAPITALbKT"),
   (0x33D0, "bLMbLNbLOGbLXbMB SMALLbMILbMOLbPHbPMbPPMbPRbSRbSVbWBbV OVER MbA OVER M"),
   (0x33E0, "aIDEOGRAPHIC TELEGRAPH SYMBOL FOR DAY ONEfTWOfTHREEfFOURfFIVEfSIXfSEVENfEIGHT"),
   (0x33E8, "fNINEfTENfELEVENfTWELVEfTHIRTEENfFOURTEENfFIFTEENfSIXTEENfSEVENTEENfEIGHTEEN"),
   (0x33F2, "fNINETEENfTWENTYfTWENTY-ONEgTWOgTHREEgFOURgFIVEgSIXgSEVENgEIGHTgNINEfTHIRTY"),
   (0x33FE, "fTHIRTY-ONEaSQUARE GAL"),
   (0x4DC0, "aHEXAGRAM FOR THE CREATIVE HEAVENdRECEPTIVE EARTHcDIFFICULTY AT THE BEGINNING"),
   (0x4DC3, "cYOUTHFUL FOLLYcWAITINGcCONFLICTcTHE ARMYcHOLDING TOGETHERcSMALL TAMING"),
   (0x4DC9, "cTREADINGcPEACEcSTANDSTILLcFELLOWSHIPcGREAT POSSESSIONcMODESTYcENTHUSIASM"),
   (0x4DD0, "cFOLLOWINGcWORK ON THE DECAYEDcAPPROACHcCONTEMPLATIONcBITING THROUGHcGRACE"),
   (0x4DD6, "cSPLITTING APARTcRETURNcINNOCENCEcGREAT TAMINGcMOUTH CORNERS"),
   (0x4DDB, "cGREAT PREPONDERANCEcTHE ABYSMAL WATERdCLINGING FIREcINFLUENCEcDURATION"),
   (0x4DE0, "cRETREATcGREAT POWERcPROGRESScDARKENING OF THE LIGHTcTHE FAMILYcOPPOSITION"),
   (0x4DE6, "cOBSTRUCTIONcDELIVERANCEcDECREASEcINCREASEcBREAKTHROUGHcCOMING TO MEET"),
   (0x4DEC, "cGATHERING TOGETHERcPUSHING UPWARDcOPPRESSIONcTHE WELLcREVOLUTIONcTHE CAULDRON"),
   (0x4DF2, "dAROUSING THUNDERdKEEPING STILL MOUNTAINcDEVELOPMENTcTHE MARRYING MAIDEN"),
   (0x4DF6, "cABUNDANCEcTHE WANDERERdGENTLE WINDdJOYOUS LAKEcDISPERSIONcLIMITATION"),
   (0x4DFC, "cINNER TRUTHcSMALL PREPONDERANCEcAFTER COMPLETIONcBEFORE COMPLETION"),
   (0xA000, "aYI SYLLABLE ITcIXcIcIPcIETcIEXcIEcIEPcATcAXcAcAPcUOXcUOcUOPcOTcOXcOcOPcEXcE"),
   (0xA015, "cWUcBITcBIXcBIcBIPcBIETcBIEXcBIEcBIEPcBATcBAXcBAcBAPcBUOXcBUOcBUOPcBOTcBOXcBO"),
   (0xA028, "cBOPcBEXcBEcBEPcBUTcBUXcBUcBUPcBURXcBURcBYTcBYXcBYcBYPcBYRXcBYRcPITcPIXcPIcPIP"),
   (0xA03C, "cPIEXcPIEcPIEPcPATcPAXcPAcPAPcPUOXcPUOcPUOPcPOTcPOXcPOcPOPcPUTcPUXcPUcPUPcPURX"),
   (0xA04F, "cPURcPYTcPYXcPYcPYPcPYRXcPYRcBBITcBBIXcBBIcBBIPcBBIETcBBIEXcBBIEcBBIEPcBBAT"),
   (0xA05F, "cBBAXcBBAcBBAPcBBUOXcBBUOcBBUOPcBBOTcBBOXcBBOcBBOPcBBEXcBBEcBBEPcBBUTcBBUXcBBU"),
   (0xA06F, "cBBUPcBBURXcBBURcBBYTcBBYXcBBYcBBYPcNBITcNBIXcNBIcNBIPcNBIEXcNBIEcNBIEPcNBAT"),
   (0xA07E, "cNBAXcNBAcNBAPcNBOTcNBOXcNBOcNBOPcNBUTcNBUXcNBUcNBUPcNBURXcNBURcNBYTcNBYXcNBY"),
   (0xA08E, "cNBYPcNBYRXcNBYRcHMITcHMIXcHMIcHMIPcHMIEXcHMIEcHMIEPcHMATcHMAXcHMAcHMAPcHMUOX"),
   (0xA09D, "cHMUOcHMUOPcHMOTcHMOXcHMOcHMOPcHMUTcHMUXcHMUcHMUPcHMURXcHMURcHMYXcHMYcHMYP"),
   (0xA0AC, "cHMYRXcHMYRcMITcMIXcMIcMIPcMIEXcMIEcMIEPcMATcMAXcMAcMAPcMUOTcMUOXcMUOcMUOPcMOT"),
   (0xA0BE, "cMOXcMOcMOPcMEXcMEcMUTcMUXcMUcMUPcMURXcMURcMYTcMYXcMYcMYPcFITcFIXcFIcFIPcFAT"),
   (0xA0D2, "cFAXcFAcFAPcFOXcFOcFOPcFUTcFUXcFUcFUPcFURXcFURcFYTcFYXcFYcFYPcVITcVIXcVIcVIP"),
   (0xA0E6, "cVIETcVIEXcVIEcVIEPcVATcVAXcVAcVAPcVOTcVOXcVOcVOPcVEXcVEPcVUTcVUXcVUcVUPcVURX"),
   (0xA0F9, "cVURcVYTcVYXcVYcVYPcVYRXcVYRcDITcDIXcDIcDIPcDIEXcDIEcDIEPcDATcDAXcDAcDAPcDUOX"),
   (0xA10C, "cDUOcDOTcDOXcDOcDOPcDEXcDEcDEPcDUTcDUXcDUcDUPcDURXcDURcTITcTIXcTIcTIPcTIEXcTIE"),
   (0xA120, "cTIEPcTATcTAXcTAcTAPcTUOTcTUOXcTUOcTUOPcTOTcTOXcTOcTOPcTEXcTEcTEPcTUTcTUXcTU"),
   (0xA133, "cTUPcTURXcTURcDDITcDDIXcDDIcDDIPcDDIEXcDDIEcDDIEPcDDATcDDAXcDDAcDDAPcDDUOX"),
   (0xA142, "cDDUOcDDUOPcDDOTcDDOXcDDOcDDOPcDDEXcDDEcDDEPcDDUTcDDUXcDDUcDDUPcDDURXcDDUR"),
   (0xA151, "cNDITcNDIXcNDIcNDIPcNDIEXcNDIEcNDATcNDAXcNDAcNDAPcNDOTcNDOXcNDOcNDOPcNDEXcNDE"),
   (0xA161, "cNDEPcNDUTcNDUXcNDUcNDUPcNDURXcNDURcHNITcHNIXcHNIcHNIPcHNIETcHNIEXcHNIEcHNIEP"),
   (0xA170, "cHNATcHNAXcHNAcHNAPcHNUOXcHNUOcHNOTcHNOXcHNOPcHNEXcHNEcHNEPcHNUTcNITcNIXcNI"),
   (0xA180, "cNIPcNIEXcNIEcNIEPcNAXcNAcNAPcNUOXcNUOcNUOPcNOTcNOXcNOcNOPcNEXcNEcNEPcNUTcNUX"),
   (0xA193, "cNUcNUPcNURXcNURcHLITcHLIXcHLIcHLIPcHLIEXcHLIEcHLIEPcHLATcHLAXcHLAcHLAPcHLUOX"),
   (0xA1A3, "cHLUOcHLUOPcHLOXcHLOcHLOPcHLEXcHLEcHLEPcHLUTcHLUXcHLUcHLUPcHLURXcHLURcHLYT"),
   (0xA1B2, "cHLYXcHLYcHLYPcHLYRXcHLYRcLITcLIXcLIcLIPcLIETcLIEXcLIEcLIEPcLATcLAXcLAcLAP"),
   (0xA1C3, "cLUOTcLUOXcLUOcLUOPcLOTcLOXcLOcLOPcLEXcLEcLEPcLUTcLUXcLUcLUPcLURXcLURcLYTcLYX"),
   (0xA1D6, "cLYcLYPcLYRXcLYRcGITcGIXcGIcGIPcGIETcGIEXcGIEcGIEPcGATcGAXcGAcGAPcGUOTcGUOX"),
   (0xA1E8, "cGUOcGUOPcGOTcGOXcGOcGOPcGETcGEXcGEcGEPcGUTcGUXcGUcGUPcGURXcGURcKITcKIXcKIcKIP"),
   (0xA1FC, "cKIEXcKIEcKIEPcKATcKAXcKAcKAPcKUOXcKUOcKUOPcKOTcKOXcKOcKOPcKETcKEXcKEcKEPcKUT"),
   (0xA20F, "cKUXcKUcKUPcKURXcKURcGGITcGGIXcGGIcGGIEXcGGIEcGGIEPcGGATcGGAXcGGAcGGAPcGGUOT"),
   (0xA21F, "cGGUOXcGGUOcGGUOPcGGOTcGGOXcGGOcGGOPcGGETcGGEXcGGEcGGEPcGGUTcGGUXcGGUcGGUP"),
   (0xA22E, "cGGURXcGGURcMGIEXcMGIEcMGATcMGAXcMGAcMGAPcMGUOXcMGUOcMGUOPcMGOTcMGOXcMGOcMGOP"),
   (0xA23D, "cMGEXcMGEcMGEPcMGUTcMGUXcMGUcMGUPcMGURXcMGURcHXITcHXIXcHXIcHXIPcHXIETcHXIEX"),
   (0xA24C, "cHXIEcHXIEPcHXATcHXAXcHXAcHXAPcHXUOTcHXUOXcHXUOcHXUOPcHXOTcHXOXcHXOcHXOPcHXEX"),
   (0xA25B, "cHXEcHXEPcNGIEXcNGIEcNGIEPcNGATcNGAXcNGAcNGAPcNGUOTcNGUOXcNGUOcNGOTcNGOXcNGO"),
   (0xA26A, "cNGOPcNGEXcNGEcNGEPcHITcHIEXcHIEcHATcHAXcHAcHAPcHUOTcHUOXcHUOcHUOPcHOTcHOXcHO"),
   (0xA27C, "cHOPcHEXcHEcHEPcWATcWAXcWAcWAPcWUOXcWUOcWUOPcWOXcWOcWOPcWEXcWEcWEPcZITcZIXcZI"),
   (0xA290, "cZIPcZIEXcZIEcZIEPcZATcZAXcZAcZAPcZUOXcZUOcZUOPcZOTcZOXcZOcZOPcZEXcZEcZEPcZUT"),
   (0xA2A3, "cZUXcZUcZUPcZURXcZURcZYTcZYXcZYcZYPcZYRXcZYRcCITcCIXcCIcCIPcCIETcCIEXcCIEcCIEP"),
   (0xA2B6, "cCATcCAXcCAcCAPcCUOXcCUOcCUOPcCOTcCOXcCOcCOPcCEXcCEcCEPcCUTcCUXcCUcCUPcCURX"),
   (0xA2C9, "cCURcCYTcCYXcCYcCYPcCYRXcCYRcZZITcZZIXcZZIcZZIPcZZIETcZZIEXcZZIEcZZIEPcZZAT"),
   (0xA2D9, "cZZAXcZZAcZZAPcZZOXcZZOcZZOPcZZEXcZZEcZZEPcZZUXcZZUcZZUPcZZURXcZZURcZZYTcZZYX"),
   (0xA2E9, "cZZYcZZYPcZZYRXcZZYRcNZITcNZIXcNZIcNZIPcNZIEXcNZIEcNZIEPcNZATcNZAXcNZAcNZAP"),
   (0xA2F8, "cNZUOXcNZUOcNZOXcNZOPcNZEXcNZEcNZUXcNZUcNZUPcNZURXcNZURcNZYTcNZYXcNZYcNZYP"),
   (0xA307, "cNZYRXcNZYRcSITcSIXcSIcSIPcSIEXcSIEcSIEPcSATcSAXcSAcSAPcSUOXcSUOcSUOPcSOTcSOX"),
   (0xA319, "cSOcSOPcSEXcSEcSEPcSUTcSUXcSUcSUPcSURXcSURcSYTcSYXcSYcSYPcSYRXcSYRcSSITcSSIX"),
   (0xA32C, "cSSIcSSIPcSSIEXcSSIEcSSIEPcSSATcSSAXcSSAcSSAPcSSOTcSSOXcSSOcSSOPcSSEXcSSEcSSEP"),
   (0xA33C, "cSSUTcSSUXcSSUcSSUPcSSYTcSSYXcSSYcSSYPcSSYRXcSSYRcZHATcZHAXcZHAcZHAPcZHUOX"),
   (0xA34B, "cZHUOcZHUOPcZHOTcZHOXcZHOcZHOPcZHETcZHEXcZHEcZHEPcZHUTcZHUXcZHUcZHUPcZHURX"),
   (0xA35A, "cZHURcZHYTcZHYXcZHYcZHYPcZHYRXcZHYRcCHATcCHAXcCHAcCHAPcCHUOTcCHUOXcCHUOcCHUOP"),
   (0xA369, "cCHOTcCHOXcCHOcCHOPcCHETcCHEXcCHEcCHEPcCHUXcCHUcCHUPcCHURXcCHURcCHYTcCHYXcCHY"),
   (0xA379, "cCHYPcCHYRXcCHYRcRRAXcRRAcRRUOXcRRUOcRROTcRROXcRROcRROPcRRETcRREXcRREcRREP"),
   (0xA388, "cRRUTcRRUXcRRUcRRUPcRRURXcRRURcRRYTcRRYXcRRYcRRYPcRRYRXcRRYRcNRATcNRAXcNRA"),
   (0xA397, "cNRAPcNROXcNROcNROPcNRETcNREXcNREcNREPcNRUTcNRUXcNRUcNRUPcNRURXcNRURcNRYTcNRYX"),
   (0xA3A7, "cNRYcNRYPcNRYRXcNRYRcSHATcSHAXcSHAcSHAPcSHUOXcSHUOcSHUOPcSHOTcSHOXcSHOcSHOP"),
   (0xA3B6, "cSHETcSHEXcSHEcSHEPcSHUTcSHUXcSHUcSHUPcSHURXcSHURcSHYTcSHYXcSHYcSHYPcSHYRX"),
   (0xA3C5, "cSHYRcRATcRAXcRAcRAPcRUOXcRUOcRUOPcROTcROXcROcROPcREXcREcREPcRUTcRUXcRUcRUP"),
   (0xA3D8, "cRURXcRURcRYTcRYXcRYcRYPcRYRXcRYRcJITcJIXcJIcJIPcJIETcJIEXcJIEcJIEPcJUOTcJUOX"),
   (0xA3EA, "cJUOcJUOPcJOTcJOXcJOcJOPcJUTcJUXcJUcJUPcJURXcJURcJYTcJYXcJYcJYPcJYRXcJYRcQIT"),
   (0xA3FD, "cQIXcQIcQIPcQIETcQIEXcQIEcQIEPcQUOTcQUOXcQUOcQUOPcQOTcQOXcQOcQOPcQUTcQUXcQU"),
   (0xA40F, "cQUPcQURXcQURcQYTcQYXcQYcQYPcQYRXcQYRcJJITcJJIXcJJIcJJIPcJJIETcJJIEXcJJIE"),
   (0xA41F, "cJJIEPcJJUOXcJJUOcJJUOPcJJOTcJJOXcJJOcJJOPcJJUTcJJUXcJJUcJJUPcJJURXcJJURcJJYT"),
   (0xA42E, "cJJYXcJJYcJJYPcNJITcNJIXcNJIcNJIPcNJIETcNJIEXcNJIEcNJIEPcNJUOXcNJUOcNJOTcNJOX"),
   (0xA43D, "cNJOcNJOPcNJUXcNJUcNJUPcNJURXcNJURcNJYTcNJYXcNJYcNJYPcNJYRXcNJYRcNYITcNYIXcNYI"),
   (0xA44D, "cNYIPcNYIETcNYIEXcNYIEcNYIEPcNYUOXcNYUOcNYUOPcNYOTcNYOXcNYOcNYOPcNYUTcNYUXcNYU"),
   (0xA45C, "cNYUPcXITcXIXcXIcXIPcXIETcXIEXcXIEcXIEPcXUOXcXUOcXOTcXOXcXOcXOPcXYTcXYXcXYcXYP"),
   (0xA46F, "cXYRXcXYRcYITcYIXcYIcYIPcYIETcYIEXcYIEcYIEPcYUOTcYUOXcYUOcYUOPcYOTcYOXcYOcYOP"),
   (0xA481, "cYUTcYUXcYUcYUPcYURXcYURcYYTcYYXcYYcYYPcYYRXcYYR"),
   (0xA490, "bRADICAL QOTcLIcKITcNYIPcCYPcSSIcGGOPcGEPcMIcHXITcLYRcBBUTcMOPcYOcPUTcHXUOcTAT"),
   (0xA4A1, "cGAcZUPcCYTcDDURcBURcGGUOcNYOPcTUcOPcJJUTcZOTcPYTcHMOcYITcVURcSHYcVEPcZAcJO"),
   (0xA4B4, "cNZUPcJJYcGOTcJJIEcWOcDUcSHURcLIEcCYcCUOPcCIPcHXOPcSHATcZURcSHOPcCHEcZZIET"),
   (0xA4C5, "cNBIEcKE"),
   (0xA4D0, "aLISU LETTER BAcPAcPHAcDAcTAcTHAcGAcKAcKHAcJAcCAcCHAcDZAcTSAcTSHAcMAcNAcLAcSA"),
   (0xA4E3, "cZHAcZAcNGAcHAcXAcHHAcFAcWAcSHAcYAcGHAcAcAEcEcEUcIcOcUcUEcUHcOEcTONE MYA TI"),
   (0xA4F9, "dNA POdMYA CYAeBOeNAeJEUbPUNCTUATION COMMAcFULL STOPaVAI SYLLABLE EEcEENcHEE"),
   (0xA503, "cWEEcWEENcPEEcBHEEcBEEcMBEEcKPEEcMGBEEcGBEEcFEEcVEEcTEEcTHEEcDHEEcDHHEEcLEE"),
   (0xA513, "cREEcDEEcNDEEcSEEcSHEEcZEEcZHEEcCEEcJEEcNJEEcYEEcKEEcNGGEEcGEEcMEEcNEEcNYEEcI"),
   (0xA525, "cINcHIcHINcWIcWINcPIcBHIcBIcMBIcKPIcMGBIcGBIcFIcVIcTIcTHIcDHIcDHHIcLIcRIcDI"),
   (0xA53A, "cNDIcSIcSHIcZIcZHIcCIcJIcNJIcYIcKIcNGGIcGIcMIcNIcNYIcAcANcNGANcHAcHANcWAcWAN"),
   (0xA550, "cPAcBHAcBAcMBAcKPAcKPANcMGBAcGBAcFAcVAcTAcTHAcDHAcDHHAcLAcRAcDAcNDAcSAcSHAcZA"),
   (0xA565, "cZHAcCAcJAcNJAcYAcKAcKANcNGGAcGAcMAcNAcNYAcOOcOONcHOOcWOOcWOONcPOOcBHOOcBOO"),
   (0xA579, "cMBOOcKPOOcMGBOOcGBOOcFOOcVOOcTOOcTHOOcDHOOcDHHOOcLOOcROOcDOOcNDOOcSOOcSHOO"),
   (0xA589, "cZOOcZHOOcCOOcJOOcNJOOcYOOcKOOcNGGOOcGOOcMOOcNOOcNYOOcUcUNcHUcHUNcWUcWUNcPU"),
   (0xA59C, "cBHUcBUcMBUcKPUcMGBUcGBUcFUcVUcTUcTHUcDHUcDHHUcLUcRUcDUcNDUcSUcSHUcZUcZHUcCU"),
   (0xA5B1, "cJUcNJUcYUcKUcNGGUcGUcMUcNUcNYUcOcONcNGONcHOcHONcWOcWONcPOcBHOcBOcMBOcKPOcMGBO"),
   (0xA5C7, "cGBOcGBONcFOcVOcTOcTHOcDHOcDHHOcLOcROcDOcNDOcSOcSHOcZOcZHOcCOcJOcNJOcYOcKO"),
   (0xA5DC, "cNGGOcGOcMOcNOcNYOcEcENcNGENcHEcHENcWEcWENcPEcBHEcBEcMBEcKPEcKPENcMGBEcGBE"),
   (0xA5F0, "cGBENcFEcVEcTEcTHEcDHEcDHHEcLEcREcDEcNDEcSEcSHEcZEcZHEcCEcJEcNJEcYEcKEcNGGE"),
   (0xA605, "cNGGENcGEcGENcMEcNEcNYEcNGcLENGTHENERbCOMMAbFULL STOPbQUESTION MARK"),
   (0xA610, "bSYLLABLE NDOLE FAdKAdSOObSYMBOL FEENGcKEENGcTINGcNIIcBANGcFAAcTAAcDANGcDOONG"),
   (0xA61C, "cKUNGcTONGcDO-OcJONGbDIGIT ZEROcONEcTWOcTHREEcFOURcFIVEcSIXcSEVENcEIGHTcNINE"),
   (0xA62A, "bSYLLABLE NDOLE MAdDO"),
   (0xA640, "aCYRILLIC CAPITAL LETTER ZEMLYAbSMALL LETTER ZEMLYAbCAPITAL LETTER DZELO"),
   (0xA643, "bSMALL LETTER DZELObCAPITAL LETTER REVERSED DZEbSMALL LETTER REVERSED DZE"),
   (0xA646, "bCAPITAL LETTER IOTAbSMALL LETTER IOTAbCAPITAL LETTER DJERVbSMALL LETTER DJERV"),
   (0xA64A, "bCAPITAL LETTER MONOGRAPH UKbSMALL LETTER MONOGRAPH UK"),
   (0xA64C, "bCAPITAL LETTER BROAD OMEGAbSMALL LETTER BROAD OMEGA"),
   (0xA64E, "bCAPITAL LETTER NEUTRAL YERbSMALL LETTER NEUTRAL YER"),
   (0xA650, "bCAPITAL LETTER YERU WITH BACK YERbSMALL LETTER YERU WITH BACK YER"),
   (0xA652, "bCAPITAL LETTER IOTIFIED YATbSMALL LETTER IOTIFIED YAT"),
   (0xA654, "bCAPITAL LETTER REVERSED YUbSMALL LETTER REVERSED YUbCAPITAL LETTER IOTIFIED A"),
   (0xA657, "bSMALL LETTER IOTIFIED AbCAPITAL LETTER CLOSED LITTLE YUS"),
   (0xA659, "bSMALL LETTER CLOSED LITTLE YUSbCAPITAL LETTER BLENDED YUS"),
   (0xA65B, "bSMALL LETTER BLENDED YUSbCAPITAL LETTER IOTIFIED CLOSED LITTLE YUS"),
   (0xA65D, "bSMALL LETTER IOTIFIED CLOSED LITTLE YUSbCAPITAL LETTER YNbSMALL LETTER YN"),
   (0xA660, "bCAPITAL LETTER REVERSED TSEbSMALL LETTER REVERSED TSEbCAPITAL LETTER SOFT DE"),
   (0xA663, "bSMALL LETTER SOFT DEbCAPITAL LETTER SOFT ELbSMALL LETTER SOFT EL"),
   (0xA666, "bCAPITAL LETTER SOFT EMbSMALL LETTER SOFT EMbCAPITAL LETTER MONOCULAR O"),
   (0xA669, "bSMALL LETTER MONOCULAR ObCAPITAL LETTER BINOCULAR ObSMALL LETTER BINOCULAR O"),
   (0xA66C, "bCAPITAL LETTER DOUBLE MONOCULAR ObSMALL LETTER DOUBLE MONOCULAR O"),
   (0xA66E, "bLETTER MULTIOCULAR OaCOMBINING CYRILLIC VZMETcTEN MILLIONS SIGN"),
   (0xA671, "cHUNDRED MILLIONS SIGNcTHOUSAND MILLIONS SIGNaSLAVONIC ASTERISK"),
   (0xA674, "aCOMBINING CYRILLIC LETTER UKRAINIAN IEdIdYIdUdHARD SIGNdYERUdSOFT SIGNdOMEGA"),
   (0xA67C, "cKAVYKAcPAYEROKaCYRILLIC KAVYKAbPAYEROKbCAPITAL LETTER DWEbSMALL LETTER DWE"),
   (0xA682, "bCAPITAL LETTER DZWEbSMALL LETTER DZWEbCAPITAL LETTER ZHWEbSMALL LETTER ZHWE"),
   (0xA686, "bCAPITAL LETTER CCHEbSMALL LETTER CCHEbCAPITAL LETTER DZZEbSMALL LETTER DZZE"),
   (0xA68A, "bCAPITAL LETTER TE WITH MIDDLE HOOKbSMALL LETTER TE WITH MIDDLE HOOK"),
   (0xA68C, "bCAPITAL LETTER TWEbSMALL LETTER TWEbCAPITAL LETTER TSWEbSMALL LETTER TSWE"),
   (0xA690, "bCAPITAL LETTER TSSEbSMALL LETTER TSSEbCAPITAL LETTER TCHEbSMALL LETTER TCHE"),
   (0xA694, "bCAPITAL LETTER HWEbSMALL LETTER HWEbCAPITAL LETTER SHWEbSMALL LETTER SHWE"),
   (0xA698, "bCAPITAL LETTER DOUBLE ObSMALL LETTER DOUBLE ObCAPITAL LETTER CROSSED O"),
   (0xA69B, "bSMALL LETTER CROSSED OaMODIFIER LETTER CYRILLIC HARD SIGNdSOFT SIGN"),
   (0xA69E, "aCOMBINING CYRILLIC LETTER EFdIOTIFIED EaBAMUM LETTER AcKAcUcKUcEEcREEcTAEcO"),
   (0xA6A8, "cNYIcIcLAcPAcRIIcRIEEcLEEEEcMEEEEcTAAcNDAAcNJAEMcMcSUUcMUcSHIIcSIcSHEUXcSEUX"),
   (0xA6BA, "cKYEEcKETcNUAEcNUcNJUAEcYOQcSHUcYUQcYAcNSHAcKEUXcPEUXcNJEEcNTEEcPUEcWUEcPEE"),
   (0xA6CB, "cFEEcRUcLUcMIcNIcREUXcRAEcKENcNGKWAENcNGGAcNGAcSHOcPUAEcFUcFOMcWAcNAcLIcPIcLOQ"),
   (0xA6DF, "cKOcMBENcRENcMENcMAcTIcKIcMOcMBAAcTETcKPAcTENcNTUUcSAMBAcFAAMAEcKOVUUcKOGHOM"),
   (0xA6F0, "bCOMBINING MARK KOQNDONdTUKWENTISbNJAEMLIbFULL STOPbCOLONbCOMMAbSEMICOLON"),
   (0xA6F7, "bQUESTION MARK"),
   (0xA700, "aMODIFIER LETTER CHINESE TONE YIN PINGeYANG PINGeYIN SHANGeYANG SHANGeYIN QU"),
   (0xA705, "eYANG QUeYIN RUeYANG RUcEXTRA-HIGH DOTTED TONE BARcHIGH DOTTED TONE BAR"),
   (0xA70A, "cMID DOTTED TONE BARcLOW DOTTED TONE BARcEXTRA-LOW DOTTED TONE BAR"),
   (0xA70D, "dHIGH DOTTED LEFT-STEM TONE BARcHIGH DOTTED LEFT-STEM TONE BAR"),
   (0xA70F, "cMID DOTTED LEFT-STEM TONE BARcLOW DOTTED LEFT-STEM TONE BAR"),
   (0xA711, "cEXTRA-LOW DOTTED LEFT-STEM TONE BARdHIGH LEFT-STEM TONE BAR"),
   (0xA713, "cHIGH LEFT-STEM TONE BARcMID LEFT-STEM TONE BARcLOW LEFT-STEM TONE BAR"),
   (0xA716, "cEXTRA-LOW LEFT-STEM TONE BARcDOT VERTICAL BARdSLASHdHORIZONTAL BAR"),
   (0xA71A, "cLOWER RIGHT CORNER ANGLEcRAISED UP ARROWdDOWN ARROWdEXCLAMATION MARK"),
   (0xA71E, "dINVERTED EXCLAMATION MARKcLOW INVERTED EXCLAMATION MARKcSTRESS AND HIGH TONE"),
   (0xA721, "eLOW TONEaLATIN CAPITAL LETTER EGYPTOLOGICAL ALEF"),
   (0xA723, "bSMALL LETTER EGYPTOLOGICAL ALEFbCAPITAL LETTER EGYPTOLOGICAL AIN"),
   (0xA725, "bSMALL LETTER EGYPTOLOGICAL AINbCAPITAL LETTER HENGbSMALL LETTER HENG"),
   (0xA728, "bCAPITAL LETTER TZbSMALL LETTER TZbCAPITAL LETTER TRESILLO"),
   (0xA72B, "bSMALL LETTER TRESILLObCAPITAL LETTER CUATRILLObSMALL LETTER CUATRILLO"),
   (0xA72E, "bCAPITAL LETTER CUATRILLO WITH COMMAbSMALL LETTER CUATRILLO WITH COMMA"),
   (0xA730, "bLETTER SMALL CAPITAL FeSbCAPITAL LETTER AAbSMALL LETTER AAbCAPITAL LETTER AO"),
   (0xA735, "bSMALL LETTER AObCAPITAL LETTER AUbSMALL LETTER AUbCAPITAL LETTER AV"),
   (0xA739, "bSMALL LETTER AVbCAPITAL LETTER AV WITH HORIZONTAL BAR"),
   (0xA73B, "bSMALL LETTER AV WITH HORIZONTAL BARbCAPITAL LETTER AYbSMALL LETTER AY"),
   (0xA73E, "bCAPITAL LETTER REVERSED C WITH DOTbSMALL LETTER REVERSED C WITH DOT"),
   (0xA740, "bCAPITAL LETTER K WITH STROKEbSMALL LETTER K WITH STROKE"),
   (0xA742, "bCAPITAL LETTER K WITH DIAGONAL STROKEbSMALL LETTER K WITH DIAGONAL STROKE"),
   (0xA744, "bCAPITAL LETTER K WITH STROKE AND DIAGONAL STROKE"),
   (0xA745, "bSMALL LETTER K WITH STROKE AND DIAGONAL STROKEbCAPITAL LETTER BROKEN L"),
   (0xA747, "bSMALL LETTER BROKEN LbCAPITAL LETTER L WITH HIGH STROKE"),
   (0xA749, "bSMALL LETTER L WITH HIGH STROKEbCAPITAL LETTER O WITH LONG STROKE OVERLAY"),
   (0xA74B, "bSMALL LETTER O WITH LONG STROKE OVERLAYbCAPITAL LETTER O WITH LOOP"),
   (0xA74D, "bSMALL LETTER O WITH LOOPbCAPITAL LETTER OObSMALL LETTER OO"),
   (0xA750, "bCAPITAL LETTER P WITH STROKE THROUGH DESCENDER"),
   (0xA751, "bSMALL LETTER P WITH STROKE THROUGH DESCENDERbCAPITAL LETTER P WITH FLOURISH"),
   (0xA753, "bSMALL LETTER P WITH FLOURISHbCAPITAL LETTER P WITH SQUIRREL TAIL"),
   (0xA755, "bSMALL LETTER P WITH SQUIRREL TAIL"),
   (0xA756, "bCAPITAL LETTER Q WITH STROKE THROUGH DESCENDER"),
   (0xA757, "bSMALL LETTER Q WITH STROKE THROUGH DESCENDER"),
   (0xA758, "bCAPITAL LETTER Q WITH DIAGONAL STROKEbSMALL LETTER Q WITH DIAGONAL STROKE"),
   (0xA75A, "bCAPITAL LETTER R ROTUNDAbSMALL LETTER R ROTUNDAbCAPITAL LETTER RUM ROTUNDA"),
   (0xA75D, "bSMALL LETTER RUM ROTUNDAbCAPITAL LETTER V WITH DIAGONAL STROKE"),
   (0xA75F, "bSMALL LETTER V WITH DIAGONAL STROKEbCAPITAL LETTER VYbSMALL LETTER VY"),
   (0xA762, "bCAPITAL LETTER VISIGOTHIC ZbSMALL LETTER VISIGOTHIC Z"),
   (0xA764, "bCAPITAL LETTER THORN WITH STROKEbSMALL LETTER THORN WITH STROKE"),
   (0xA766, "bCAPITAL LETTER THORN WITH STROKE THROUGH DESCENDER"),
   (0xA767, "bSMALL LETTER THORN WITH STROKE THROUGH DESCENDERbCAPITAL LETTER VEND"),
   (0xA769, "bSMALL LETTER VENDbCAPITAL LETTER ETbSMALL LETTER ETbCAPITAL LETTER IS"),
   (0xA76D, "bSMALL LETTER ISbCAPITAL LETTER CONbSMALL LETTER CONaMODIFIER LETTER US"),
   (0xA771, "aLATIN SMALL LETTER DUMdLUMdMUMdNUMdRUMbLETTER SMALL CAPITAL RUM"),
   (0xA777, "bSMALL LETTER TUMdUMbCAPITAL LETTER INSULAR DbSMALL LETTER INSULAR D"),
   (0xA77B, "bCAPITAL LETTER INSULAR FbSMALL LETTER INSULAR FbCAPITAL LETTER INSULAR G"),
   (0xA77E, "dTURNED INSULAR GbSMALL LETTER TURNED INSULAR GbCAPITAL LETTER TURNED L"),
   (0xA781, "bSMALL LETTER TURNED LbCAPITAL LETTER INSULAR RbSMALL LETTER INSULAR R"),
   (0xA784, "bCAPITAL LETTER INSULAR SbSMALL LETTER INSULAR SbCAPITAL LETTER INSULAR T"),
   (0xA787, "bSMALL LETTER INSULAR TaMODIFIER LETTER LOW CIRCUMFLEX ACCENTcCOLON"),
   (0xA78A, "cSHORT EQUALS SIGNaLATIN CAPITAL LETTER SALTILLObSMALL LETTER SALTILLO"),
   (0xA78D, "bCAPITAL LETTER TURNED HbSMALL LETTER L WITH RETROFLEX HOOK AND BELT"),
   (0xA78F, "bLETTER SINOLOGICAL DOTbCAPITAL LETTER N WITH DESCENDER"),
   (0xA791, "bSMALL LETTER N WITH DESCENDERbCAPITAL LETTER C WITH BAR"),
   (0xA793, "bSMALL LETTER C WITH BARfPALATAL HOOKdH WITH PALATAL HOOK"),
   (0xA796, "bCAPITAL LETTER B WITH FLOURISHbSMALL LETTER B WITH FLOURISH"),
   (0xA798, "bCAPITAL LETTER F WITH STROKEbSMALL LETTER F WITH STROKE"),
   (0xA79A, "bCAPITAL LETTER VOLAPUK AEbSMALL LETTER VOLAPUK AEbCAPITAL LETTER VOLAPUK OE"),
   (0xA79D, "bSMALL LETTER VOLAPUK OEbCAPITAL LETTER VOLAPUK UEbSMALL LETTER VOLAPUK UE"),
   (0xA7A0, "bCAPITAL LETTER G WITH OBLIQUE STROKEbSMALL LETTER G WITH OBLIQUE STROKE"),
   (0xA7A2, "bCAPITAL LETTER K WITH OBLIQUE STROKEbSMALL LETTER K WITH OBLIQUE STROKE"),
   (0xA7A4, "bCAPITAL LETTER N WITH OBLIQUE STROKEbSMALL LETTER N WITH OBLIQUE STROKE"),
   (0xA7A6, "bCAPITAL LETTER R WITH OBLIQUE STROKEbSMALL LETTER R WITH OBLIQUE STROKE"),
   (0xA7A8, "bCAPITAL LETTER S WITH OBLIQUE STROKEbSMALL LETTER S WITH OBLIQUE STROKE"),
   (0xA7AA, "bCAPITAL LETTER H WITH HOOKdREVERSED OPEN EdSCRIPT GdL WITH BELT"),
   (0xA7AE, "dSMALL CAPITAL IbLETTER SMALL CAPITAL QbCAPITAL LETTER TURNED KeT"),
   (0xA7B2, "dJ WITH CROSSED-TAILdCHIdBETAbSMALL LETTER BETAbCAPITAL LETTER OMEGA"),
   (0xA7B7, "bSMALL LETTER OMEGAbCAPITAL LETTER U WITH STROKEbSMALL LETTER U WITH STROKE"),
   (0xA7BA, "bCAPITAL LETTER GLOTTAL AbSMALL LETTER GLOTTAL AbCAPITAL LETTER GLOTTAL I"),
   (0xA7BD, "bSMALL LETTER GLOTTAL IbCAPITAL LETTER GLOTTAL UbSMALL LETTER GLOTTAL U"),
   (0xA7C0, "bCAPITAL LETTER OLD POLISH ObSMALL LETTER OLD POLISH O"),
   (0xA7C2, "bCAPITAL LETTER ANGLICANA WbSMALL LETTER ANGLICANA W"),
   (0xA7C4, "bCAPITAL LETTER C WITH PALATAL HOOKdS WITH HOOKdZ WITH PALATAL HOOK"),
   (0xA7C7, "dD WITH SHORT STROKE OVERLAYbSMALL LETTER D WITH SHORT STROKE OVERLAY"),
   (0xA7C9, "bCAPITAL LETTER S WITH SHORT STROKE OVERLAY"),
   (0xA7CA, "bSMALL LETTER S WITH SHORT STROKE OVERLAY"),
   (0xA7D0, "bCAPITAL LETTER CLOSED INSULAR GbSMALL LETTER CLOSED INSULAR G"),
   (0xA7D3, "dDOUBLE THORN"),
   (0xA7D5, "eWYNNbCAPITAL LETTER MIDDLE SCOTS SbSMALL LETTER MIDDLE SCOTS S"),
   (0xA7D8, "bCAPITAL LETTER SIGMOID SbSMALL LETTER SIGMOID S"),
   (0xA7F2, "aMODIFIER LETTER CAPITAL CdFdQaLATIN CAPITAL LETTER REVERSED HALF H"),
   (0xA7F6, "bSMALL LETTER REVERSED HALF HbEPIGRAPHIC LETTER SIDEWAYS I"),
   (0xA7F8, "aMODIFIER LETTER CAPITAL H WITH STROKEcSMALL LIGATURE OE"),
   (0xA7FA, "aLATIN LETTER SMALL CAPITAL TURNED MbEPIGRAPHIC LETTER REVERSED FePdINVERTED M"),
   (0xA7FE, "dI LONGAdARCHAIC MaSYLOTI NAGRI LETTER AdIcSIGN DVISVARAcLETTER UdEdO"),
   (0xA806, "cSIGN HASANTAcLETTER KOdKHOdGOdGHOcSIGN ANUSVARAcLETTER COdCHOdJOdJHOdTTOdTTHO"),
   (0xA812, "dDDOdDDHOdTOdTHOdDOdDHOdNOdPOdPHOdBOdBHOdMOdROdLOdRROdSOdHOcVOWEL SIGN AeIeUeE"),
   (0xA827, "eOOcPOETRY MARK-1e2e3e4cSIGN ALTERNATE HASANTA"),
   (0xA830, "aNORTH INDIC FRACTION ONE QUARTEReHALFdTHREE QUARTERSdONE SIXTEENTHeEIGHTH"),
   (0xA835, "dTHREE SIXTEENTHScQUARTER MARKcPLACEHOLDER MARKcRUPEE MARKcQUANTITY MARK"),
   (0xA840, "aPHAGS-PA LETTER KAdKHAdGAdNGAdCAdCHAdJAdNYAdTAdTHAdDAdNAdPAdPHAdBAdMAdTSA"),
   (0xA851, "dTSHAdDZAdWAdZHAdZAdSMALL AdYAdRAdLAdSHAdSAdHAdAdIdUdEdOdQAdXAdFAdGGAdEE"),
   (0xA867, "cSUBJOINED LETTER WAeYAcLETTER TTAdTTHAdDDAdNNAdALTERNATE YAdVOICELESS SHA"),
   (0xA86F, "dVOICED HAdASPIRATED FAcSUBJOINED LETTER RAcSUPERFIXED LETTER RA"),
   (0xA873, "cLETTER CANDRABINDUcSINGLE HEAD MARKcDOUBLE HEAD MARKcMARK SHADdDOUBLE SHAD"),
   (0xA880, "aSAURASHTRA SIGN ANUSVARAcVISARGAbLETTER AcAAcIcIIcUcUUcVOCALIC RdRRdLdLLcEcEE"),
   (0xA88E, "cAIcOcOOcAUcKAcKHAcGAcGHAcNGAcCAcCHAcJAcJHAcNYAcTTAcTTHAcDDAcDDHAcNNAcTAcTHA"),
   (0xA8A3, "cDAcDHAcNAcPAcPHAcBAcBHAcMAcYAcRAcLAcVAcSHAcSSAcSAcHAcLLAbCONSONANT SIGN HAARU"),
   (0xA8B5, "bVOWEL SIGN AAdIdIIdUdUUdVOCALIC ReRReLeLLdEdEEdAIdOdOOdAUbSIGN VIRAMA"),
   (0xA8C5, "cCANDRABINDU"),
   (0xA8CE, "bDANDAbDOUBLE DANDAbDIGIT ZEROcONEcTWOcTHREEcFOURcFIVEcSIXcSEVENcEIGHTcNINE"),
   (0xA8E0, "aCOMBINING DEVANAGARI DIGIT ZEROdONEdTWOdTHREEdFOURdFIVEdSIXdSEVENdEIGHTdNINE"),
   (0xA8EA, "cLETTER AdUdKAdNAdPAdRAdVIcSIGN AVAGRAHAaDEVANAGARI SIGN SPACING CANDRABINDU"),
   (0xA8F3, "cCANDRABINDU VIRAMAcDOUBLE CANDRABINDU VIRAMAcCANDRABINDU TWOdTHREEdAVAGRAHA"),
   (0xA8F8, "cPUSHPIKAbGAP FILLERbCARETbHEADSTROKEbSIGN SIDDHAMbJAIN OMbLETTER AY"),
   (0xA8FF, "bVOWEL SIGN AYaKAYAH LI DIGIT ZEROdONEdTWOdTHREEdFOURdFIVEdSIXdSEVENdEIGHT"),
   (0xA909, "dNINEcLETTER KAdKHAdGAdNGAdSAdSHAdZAdNYAdTAdHTAdNAdPAdPHAdMAdDAdBAdRAdYAdLAdWA"),
   (0xA91E, "dTHAdHAdVAdCAdAdOEdIdOOcVOWEL UEdEdUdEEdOcTONE PLOPHUdCALYAdCALYA PLOPHU"),
   (0xA92E, "cSIGN CWIdSHYAaREJANG LETTER KAcGAcNGAcTAcDAcNAcPAcBAcMAcCAcJAcNYAcSAcRAcLAcYA"),
   (0xA940, "cWAcHAcMBAcNGGAcNDAcNYJAcAbVOWEL SIGN IdUdEdAIdOdAUdEUdEAbCONSONANT SIGN NGdN"),
   (0xA951, "dRdHbVIRAMA"),
   (0xA95F, "bSECTION MARKaHANGUL CHOSEONG TIKEUT-MIEUMdPIEUPdSIOSdCIEUCcRIEUL-KIYEOK"),
   (0xA965, "dSSANGKIYEOKdTIKEUTdSSANGTIKEUTdMIEUMdPIEUPdSSANGPIEUPdKAPYEOUNPIEUPdSIOS"),
   (0xA96D, "dCIEUCdKHIEUKHcMIEUM-KIYEOKdTIKEUTdSIOScPIEUP-SIOS-THIEUTHdKHIEUKHdHIEUH"),
   (0xA975, "cSSANGSIOS-PIEUPcIEUNG-RIEULdHIEUHcSSANGCIEUC-HIEUHcSSANGTHIEUTHcPHIEUPH-HIEUH"),
   (0xA97B, "cHIEUH-SIOScSSANGYEORINHIEUH"),
   (0xA980, "aJAVANESE SIGN PANYANGGAcCECAKcLAYARcWIGNYANbLETTER AcI KAWIcIcIIcUcPA CEREK"),
   (0xA98A, "cNGA LELETdLELET RASWADIcEcAIcOcKAcKA SASAKdMURDAcGAcGA MURDAcNGAcCAcCA MURDA"),
   (0xA997, "cJAcNYA MURDAcJA MAHAPRANAcNYAcTTAcTTA MAHAPRANAcDDAcDDA MAHAPRANAcNA MURDAcTA"),
   (0xA9A1, "cTA MURDAcDAcDA MAHAPRANAcNAcPAcPA MURDAcBAcBA MURDAcMAcYAcRAcRA AGUNGcLAcWA"),
   (0xA9AF, "cSA MURDAdMAHAPRANAcSAcHAbSIGN CECAK TELUbVOWEL SIGN TARUNGdTOLONGdWULU"),
   (0xA9B7, "dWULU MELIKdSUKUdSUKU MENDUTdTALINGdDIRGA MUREdPEPETbCONSONANT SIGN KERET"),
   (0xA9BE, "dPENGKALdCAKRAbPANGKONbLEFT RERENGGANbRIGHT RERENGGANbPADA ANDAPcMADYAcLUHUR"),
   (0xA9C6, "cWINDUcPANGKATcLINGSAcLUNGSIcADEGcADEG ADEGcPISELEHbTURNED PADA PISELEH"),
   (0xA9CF, "bPANGRANGKEPbDIGIT ZEROcONEcTWOcTHREEcFOURcFIVEcSIXcSEVENcEIGHTcNINE"),
   (0xA9DE, "bPADA TIRTA TUMETEScISEN-ISENaMYANMAR LETTER SHAN GHAdCHAdJHAdNNAdBHA"),
   (0xA9E5, "bSIGN SHAN SAWbMODIFIER LETTER SHAN REDUPLICATIONbLETTER TAI LAING NYAeFAeGA"),
   (0xA9EA, "eGHAeJAeJHAeDDAeDDHAeNNAbTAI LAING DIGIT ZEROeONEeTWOeTHREEeFOUReFIVEeSIX"),
   (0xA9F7, "eSEVENeEIGHTeNINEbLETTER TAI LAING LLAeDAeDHAeBAeBHA"),
   (0xAA00, "aCHAM LETTER AcIcUcEcAIcOcKAcKHAcGAcGHAcNGUEcNGAcCHAcCHHAcJAcJHAcNHUEcNHAcNHJA"),
   (0xAA13, "cTAcTHAcDAcDHAcNUEcNAcDDAcPAcPPAcPHAcBAcBHAcMUEcMAcBBAcYAcRAcLAcVAcSSAcSAcHA"),
   (0xAA29, "bVOWEL SIGN AAdIdIIdEIdUdOEdOdAIdAUdUEbCONSONANT SIGN YAdRAdLAdWA"),
   (0xAA40, "bLETTER FINAL KdGdNGbCONSONANT SIGN FINAL NGbLETTER FINAL CHdTdNdPdYdRdLdSS"),
   (0xAA4C, "bCONSONANT SIGN FINAL MeH"),
   (0xAA50, "bDIGIT ZEROcONEcTWOcTHREEcFOURcFIVEcSIXcSEVENcEIGHTcNINE"),
   (0xAA5C, "bPUNCTUATION SPIRALcDANDAcDOUBLE DANDAcTRIPLE DANDAaMYANMAR LETTER KHAMTI GA"),
   (0xAA61, "dCAdCHAdJAdJHAdNYAdTTAdTTHAdDDAdDDHAdDHAdNAdSAdHAdHHAdFA"),
   (0xAA70, "bMODIFIER LETTER KHAMTI REDUPLICATIONbLETTER KHAMTI XAdZAdRA"),
   (0xAA74, "bLOGOGRAM KHAMTI OAYdQNdHMbSYMBOL AITON EXCLAMATIONdONEdTWObLETTER AITON RA"),
   (0xAA7B, "bSIGN PAO KAREN TONEcTAI LAING TONE-2f5bLETTER SHWE PALAUNG CHAeSHA"),
   (0xAA80, "aTAI VIET LETTER LOW KOdHIGH KOdLOW KHOdHIGH KHOdLOW KHHOdHIGH KHHOdLOW GO"),
   (0xAA87, "dHIGH GOdLOW NGOdHIGH NGOdLOW COdHIGH COdLOW CHOdHIGH CHOdLOW SOdHIGH SO"),
   (0xAA90, "dLOW NYOdHIGH NYOdLOW DOdHIGH DOdLOW TOdHIGH TOdLOW THOdHIGH THOdLOW NO"),
   (0xAA99, "dHIGH NOdLOW BOdHIGH BOdLOW POdHIGH POdLOW PHOdHIGH PHOdLOW FOdHIGH FOdLOW MO"),
   (0xAAA3, "dHIGH MOdLOW YOdHIGH YOdLOW ROdHIGH ROdLOW LOdHIGH LOdLOW VOdHIGH VOdLOW HO"),
   (0xAAAD, "dHIGH HOdLOW OdHIGH OcMAI KANGcVOWEL AAdIdUEdUdEdOcMAI KHITcVOWEL IAdUEAdUA"),
   (0xAABB, "dAUEdAYdANdAMcTONE MAI EKeNUENGeTHOeSONG"),
   (0xAADB, "cSYMBOL KONdNUENGdSAMdHO HOIdKOI KOIaMEETEI MAYEK LETTER EdOdCHAdNYAdTTAdTTHA"),
   (0xAAE6, "dDDAdDDHAdNNAdSHAdSSAcVOWEL SIGN IIeUUeAAIeAUeAAUcCHEIKHANcAHANG KHUDAMcANJI"),
   (0xAAF3, "cSYLLABLE REPETITION MARKcWORD REPETITION MARKcVOWEL SIGN VISARGAcVIRAMA"),
   (0xAB01, "aETHIOPIC SYLLABLE TTHUcTTHIcTTHAAcTTHEEcTTHEcTTHO"),
   (0xAB09, "cDDHUcDDHIcDDHAAcDDHEEcDDHEcDDHO"),
   (0xAB11, "cDZUcDZIcDZAAcDZEEcDZEcDZO"),
   (0xAB20, "cCCHHAcCCHHUcCCHHIcCCHHAAcCCHHEEcCCHHEcCCHHO"),
   (0xAB28, "cBBAcBBUcBBIcBBAAcBBEEcBBEcBBO"),
   (0xAB30, "aLATIN SMALL LETTER BARRED ALPHAdA REVERSED-SCHWAdBLACKLETTER EdBARRED E"),
   (0xAB34, "dE WITH FLOURISHdLENIS FdSCRIPT G WITH CROSSED-TAILdL WITH INVERTED LAZY S"),
   (0xAB38, "fDOUBLE MIDDLE TILDEfMIDDLE RINGdM WITH CROSSED-TAILdN WITH CROSSED-TAIL"),
   (0xAB3C, "dENG WITH CROSSED-TAILdBLACKLETTER OeO WITH STROKEdOPEN O WITH STROKE"),
   (0xAB40, "dINVERTED OEdTURNED OE WITH STROKEgHORIZONTAL STROKEeO OPEN-OgO WITH STROKE"),
   (0xAB45, "dSTIRRUP RbLETTER SMALL CAPITAL R WITH RIGHT LEGbSMALL LETTER R WITHOUT HANDLE"),
   (0xAB48, "dDOUBLE RdR WITH CROSSED-TAILdDOUBLE R WITH CROSSED-TAILdSCRIPT ReR WITH RING"),
   (0xAB4D, "dBASELINE ESHdU WITH SHORT RIGHT LEGeBAR WITH SHORT RIGHT LEGdUIdTURNED UI"),
   (0xAB52, "dU WITH LEFT HOOKdCHIdCHI WITH LOW RIGHT RINGgLEFT SERIFdX WITH LOW RIGHT RING"),
   (0xAB57, "fLONG LEFT LEGhLEG AND LOW RIGHT RINGiWITH SERIFdY WITH SHORT RIGHT LEG"),
   (0xAB5B, "aMODIFIER BREVE WITH INVERTED BREVEbLETTER SMALL HENGdL WITH INVERTED LAZY S"),
   (0xAB5E, "fMIDDLE TILDEdU WITH LEFT HOOKaLATIN SMALL LETTER SAKHA YATdIOTIFIED EdOPEN OE"),
   (0xAB63, "dUOdINVERTED ALPHAaGREEK LETTER SMALL CAPITAL OMEGA"),
   (0xAB66, "aLATIN SMALL LETTER DZ DIGRAPH WITH RETROFLEX HOOK"),
   (0xAB67, "dTS DIGRAPH WITH RETROFLEX HOOKdTURNED R WITH MIDDLE TILDE"),
   (0xAB69, "aMODIFIER LETTER SMALL TURNED WcLEFT TACKcRIGHT TACK"),
   (0xAB70, "aCHEROKEE SMALL LETTER AdEdIdOdUdVdGAdKAdGEdGIdGOdGUdGVdHAdHEdHIdHOdHUdHVdLA"),
   (0xAB84, "dLEdLIdLOdLUdLVdMAdMEdMIdMOdMUdNAdHNAdNAHdNEdNIdNOdNUdNVdQUAdQUEdQUIdQUOdQUU"),
   (0xAB9B, "dQUVdSAdSdSEdSIdSOdSUdSVdDAdTAdDEdTEdDIdTIdDOdDUdDVdDLAdTLAdTLEdTLIdTLOdTLU"),
   (0xABB2, "dTLVdTSAdTSEdTSIdTSOdTSUdTSVdWAdWEdWIdWOdWUdWVdYAaMEETEI MAYEK LETTER KOKdSAM"),
   (0xABC2, "dLAIdMITdPAdNAdCHILdTILdKHOUdNGOUdTHOUdWAIdYANGdHUKdUNdIdPHAMdATIYAdGOKdJHAM"),
   (0xABD4, "dRAIdBAdJILdDILdGHOUdDHOUdBHAMdKOK LONSUMdLAI LONSUMdMIT LONSUMdPA LONSUM"),
   (0xABDF, "dNA LONSUMdTIL LONSUMdNGOU LONSUMdI LONSUMcVOWEL SIGN ONAPeINAPeANAPeYENAP"),
   (0xABE7, "eSOUNAPeUNAPeCHEINAPeNUNGcCHEIKHEIcLUM IYEKcAPUN IYEK"),
   (0xABF0, "cDIGIT ZEROdONEdTWOdTHREEdFOURdFIVEdSIXdSEVENdEIGHTdNINE"),
   (0xD7B0, "aHANGUL JUNGSEONG O-YEOdO-IcYO-AdAEdEOcU-YEOdI-IcYU-AEdOcEU-AdEOdEdOcI-YA-O"),
   (0xD7BE, "dYAEdYEOdYEdO-IdYOdYUdIcARAEA-AdE"),
   (0xD7CB, "bJONGSEONG NIEUN-RIEULdCHIEUCHcSSANGTIKEUTcSSANGTIKEUT-PIEUPcTIKEUT-PIEUPdSIOS"),
   (0xD7D1, "dSIOS-KIYEOKdCIEUCdCHIEUCHdTHIEUTHcRIEUL-SSANGKIYEOKdKIYEOK-HIEUH"),
   (0xD7D7, "cSSANGRIEUL-KHIEUKHcRIEUL-MIEUM-HIEUHdPIEUP-TIKEUTePHIEUPHdYESIEUNG"),
   (0xD7DC, "dYEORINHIEUH-HIEUHcKAPYEOUNRIEULcMIEUM-NIEUNdSSANGNIEUNcSSANGMIEUM"),
   (0xD7E1, "cMIEUM-PIEUP-SIOSdCIEUCcPIEUP-TIKEUTdRIEUL-PHIEUPHdMIEUMcSSANGPIEUP"),
   (0xD7E7, "cPIEUP-SIOS-TIKEUTdCIEUCdCHIEUCHcSIOS-MIEUMdKAPYEOUNPIEUPcSSANGSIOS-KIYEOK"),
   (0xD7ED, "dTIKEUTcSIOS-PANSIOSdCIEUCdCHIEUCHdTHIEUTHdHIEUHcPANSIOS-PIEUPdKAPYEOUNPIEUP"),
   (0xD7F5, "cYESIEUNG-MIEUMdHIEUHcCIEUC-PIEUPdSSANGPIEUPcSSANGCIEUCcPHIEUPH-SIOSdTHIEUTH")]

end RecordAudit.Text.CharacterName

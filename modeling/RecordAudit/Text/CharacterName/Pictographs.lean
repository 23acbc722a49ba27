/-!
# Names of pictographs

The characters from U+1F000 on: game pieces, pictographs, arrows and tags. Each line gives the code
point of its first name; the names of the characters after it follow, each behind a small letter
that tells how many words it shares with the name before it.
-/

namespace RecordAudit.Text.CharacterName

def pictographs : List (Nat × String) :=
  [(0x1F000, "aMAHJONG TILE EAST WINDcSOUTH WINDcWEST WINDcNORTH WINDcRED DRAGON"),
   (0x1F005, "cGREEN DRAGONcWHITE DRAGONcONE OF CHARACTERScTWO OF CHARACTERS"),
   (0x1F009, "cTHREE OF CHARACTERScFOUR OF CHARACTERScFIVE OF CHARACTERScSIX OF CHARACTERS"),
   (0x1F00D, "cSEVEN OF CHARACTERScEIGHT OF CHARACTERScNINE OF CHARACTERScONE OF BAMBOOS"),
   (0x1F011, "cTWO OF BAMBOOScTHREE OF BAMBOOScFOUR OF BAMBOOScFIVE OF BAMBOOS"),
   (0x1F015, "cSIX OF BAMBOOScSEVEN OF BAMBOOScEIGHT OF BAMBOOScNINE OF BAMBOOS"),
   (0x1F019, "cONE OF CIRCLEScTWO OF CIRCLEScTHREE OF CIRCLEScFOUR OF CIRCLES"),
   (0x1F01D, "cFIVE OF CIRCLEScSIX OF CIRCLEScSEVEN OF CIRCLEScEIGHT OF CIRCLES"),
   (0x1F021, "cNINE OF CIRCLEScPLUMcORCHIDcBAMBOOcCHRYSANTHEMUMcSPRINGcSUMMERcAUTUMNcWINTER"),
   (0x1F02A, "cJOKERcBACK"),
   (0x1F030, "aDOMINO TILE HORIZONTAL BACKcHORIZONTAL-00-00e01e02e03e04e05e06d01-00e01e02e03"),
   (0x1F03C, "e04e05e06d02-00e01e02e03e04e05e06d03-00e01e02e03e04e05e06d04-00e01e02e03e04e05"),
   (0x1F053, "e06d05-00e01e02e03e04e05e06d06-00e01e02e03e04e05e06cVERTICAL BACK"),
   (0x1F063, "cVERTICAL-00-00e01e02e03e04e05e06d01-00e01e02e03e04e05e06d02-00e01e02e03e04e05"),
   (0x1F077, "e06d03-00e01e02e03e04e05e06d04-00e01e02e03e04e05e06d05-00e01e02e03e04e05e06"),
   (0x1F08D, "d06-00e01e02e03e04e05e06"),
   (0x1F0A0, "aPLAYING CARD BACKcACE OF SPADEScTWO OF SPADEScTHREE OF SPADEScFOUR OF SPADES"),
   (0x1F0A5, "cFIVE OF SPADEScSIX OF SPADEScSEVEN OF SPADEScEIGHT OF SPADEScNINE OF SPADES"),
   (0x1F0AA, "cTEN OF SPADEScJACK OF SPADEScKNIGHT OF SPADEScQUEEN OF SPADEScKING OF SPADES"),
   (0x1F0B1, "cACE OF HEARTScTWO OF HEARTScTHREE OF HEARTScFOUR OF HEARTScFIVE OF HEARTS"),
   (0x1F0B6, "cSIX OF HEARTScSEVEN OF HEARTScEIGHT OF HEARTScNINE OF HEARTScTEN OF HEARTS"),
   (0x1F0BB, "cJACK OF HEARTScKNIGHT OF HEARTScQUEEN OF HEARTScKING OF HEARTScRED JOKER"),
   (0x1F0C1, "cACE OF DIAMONDScTWO OF DIAMONDScTHREE OF DIAMONDScFOUR OF DIAMONDS"),
   (0x1F0C5, "cFIVE OF DIAMONDScSIX OF DIAMONDScSEVEN OF DIAMONDScEIGHT OF DIAMONDS"),
   (0x1F0C9, "cNINE OF DIAMONDScTEN OF DIAMONDScJACK OF DIAMONDScKNIGHT OF DIAMONDS"),
   (0x1F0CD, "cQUEEN OF DIAMONDScKING OF DIAMONDScBLACK JOKER"),
   (0x1F0D1, "cACE OF CLUBScTWO OF CLUBScTHREE OF CLUBScFOUR OF CLUBScFIVE OF CLUBS"),
   (0x1F0D6, "cSIX OF CLUBScSEVEN OF CLUBScEIGHT OF CLUBScNINE OF CLUBScTEN OF CLUBS"),
   (0x1F0DB, "cJACK OF CLUBScKNIGHT OF CLUBScQUEEN OF CLUBScKING OF CLUBScWHITE JOKERcFOOL"),
   (0x1F0E1, "cTRUMP-1d2d3d4d5d6d7d8d9d10d11d12d13d14d15d16d17d18d19d20d21"),
   (0x1F100, "aDIGIT ZERO FULL STOPcCOMMAbONE COMMAbTWO COMMAbTHREE COMMAbFOUR COMMA"),
   (0x1F106, "bFIVE COMMAbSIX COMMAbSEVEN COMMAbEIGHT COMMAbNINE COMMA"),
   (0x1F10B, "aDINGBAT CIRCLED SANS-SERIF DIGIT ZERObNEGATIVE CIRCLED SANS-SERIF DIGIT ZERO"),
   (0x1F10D, "aCIRCLED ZERO WITH SLASHbANTICLOCKWISE ARROW"),
   (0x1F10F, "bDOLLAR SIGN WITH OVERLAID BACKSLASHaPARENTHESIZED LATIN CAPITAL LETTER AeBeC"),
   (0x1F113, "eDeEeFeGeHeIeJeKeLeMeNeOePeQeReSeTeUeVeWeXeYeZ"),
   (0x1F12A, "aTORTOISE SHELL BRACKETED LATIN CAPITAL LETTER S"),
   (0x1F12B, "aCIRCLED ITALIC LATIN CAPITAL LETTER CfRbCDbWZaCOPYLEFT SYMBOL"),
   (0x1F130, "aSQUARED LATIN CAPITAL LETTER AeBeCeDeEeFeGeHeIeJeKeLeMeNeOePeQeReSeTeUeVeWeX"),
   (0x1F148, "eYeZbHVbMVbSDbSSbPPVbWCaNEGATIVE CIRCLED LATIN CAPITAL LETTER AfBfCfDfEfFfGfH"),
   (0x1F158, "fIfJfKfLfMfNfOfPfQfRfSfTfUfVfWfXfYfZaRAISED MC SIGNbMD SIGNbMR SIGNaCIRCLED CC"),
   (0x1F16E, "bC WITH OVERLAID BACKSLASHbHUMAN FIGURE"),
   (0x1F170, "aNEGATIVE SQUARED LATIN CAPITAL LETTER AfBfCfDfEfFfGfHfIfJfKfLfMfNfOfPfQfRfSfT"),
   (0x1F184, "fUfVfWfXfYfZaCROSSED NEGATIVE SQUARED LATIN CAPITAL LETTER P"),
   (0x1F18B, "aNEGATIVE SQUARED ICcPAcSAcABcWCaSQUARE DJaSQUARED CLbCOOLbFREEbIDbNEWbNGbOK"),
   (0x1F198, "bSOSbUP WITH EXCLAMATION MARKbVSbTHREE DbSECOND SCREENbTWO KbFOUR KbEIGHT K"),
   (0x1F1A0, "bFIVE POINT ONEbSEVEN POINT ONEbTWENTY-TWO POINT TWObSIXTY P"),
   (0x1F1A4, "bONE HUNDRED TWENTY PbLATIN SMALL LETTER DbHCbHDRbHI-RESbLOSSLESSbSHVbUHDbVOD"),
   (0x1F1AD, "aMASK WORK SYMBOL"),
   (0x1F1E6, "aREGIONAL INDICATOR SYMBOL LETTER AeBeCeDeEeFeGeHeIeJeKeLeMeNeOePeQeReSeTeUeV"),
   (0x1F1FC, "eWeXeYeZaSQUARE HIRAGANA HOKAaSQUARED KATAKANA KOKOcSA"),
   (0x1F210, "bCJK UNIFIED IDEOGRAPH-624Be5B57e53CCbKATAKANA DEbCJK UNIFIED IDEOGRAPH-4E8C"),
   (0x1F215, "e591Ae89E3e5929e4EA4e6620e7121e6599e524De5F8Ce518De65B0e521De7D42e751Fe8CA9"),
   (0x1F224, "e58F0e5439e6F14e6295e6355e4E00e4E09e904Ae5DE6e4E2De53F3e6307e8D70e6253e7981"),
   (0x1F233, "e7A7Ae5408e6E80e6709e6708e7533e5272e55B6e914D"),
   (0x1F240, "aTORTOISE SHELL BRACKETED CJK UNIFIED IDEOGRAPH-672Cg4E09g4E8Cg5B89g70B9g6253"),
   (0x1F246, "g76D7g52DDg6557"),
   (0x1F250, "aCIRCLED IDEOGRAPH ADVANTAGEcACCEPT"),
   (0x1F260, "aROUNDED SYMBOL FOR FUdLUdSHOUdXIdSHUANGXIdCAI"),
   (0x1F300, "aCYCLONEaFOGGYaCLOSED UMBRELLAaNIGHT WITH STARSaSUNRISE OVER MOUNTAINSaSUNRISE"),
   (0x1F306, "aCITYSCAPE AT DUSKaSUNSET OVER BUILDINGSaRAINBOWaBRIDGE AT NIGHTaWATER WAVE"),
   (0x1F30B, "aVOLCANOaMILKY WAYaEARTH GLOBE EUROPE-AFRICAcAMERICAScASIA-AUSTRALIA"),
   (0x1F310, "aGLOBE WITH MERIDIANSaNEW MOON SYMBOLaWAXING CRESCENT MOON SYMBOL"),
   (0x1F313, "aFIRST QUARTER MOON SYMBOLaWAXING GIBBOUS MOON SYMBOLaFULL MOON SYMBOL"),
   (0x1F316, "aWANING GIBBOUS MOON SYMBOLaLAST QUARTER MOON SYMBOL"),
   (0x1F318, "aWANING CRESCENT MOON SYMBOLaCRESCENT MOONaNEW MOON WITH FACE"),
   (0x1F31B, "aFIRST QUARTER MOON WITH FACEaLAST QUARTER MOON WITH FACEaFULL MOON WITH FACE"),
   (0x1F31E, "aSUN WITH FACEaGLOWING STARaSHOOTING STARaTHERMOMETERaBLACK DROPLETaWHITE SUN"),
   (0x1F324, "bSUN WITH SMALL CLOUDcBEHIND CLOUDdCLOUD WITH RAINaCLOUD WITH RAINcSNOW"),
   (0x1F329, "cLIGHTNINGcTORNADOaFOGaWIND BLOWING FACEaHOT DOGaTACOaBURRITOaCHESTNUT"),
   (0x1F331, "aSEEDLINGaEVERGREEN TREEaDECIDUOUS TREEaPALM TREEaCACTUSaHOT PEPPERaTULIP"),
   (0x1F338, "aCHERRY BLOSSOMaROSEaHIBISCUSaSUNFLOWERaBLOSSOMaEAR OF MAIZEcRICEaHERB"),
   (0x1F340, "aFOUR LEAF CLOVERaMAPLE LEAFaFALLEN LEAFaLEAF FLUTTERING IN WINDaMUSHROOM"),
   (0x1F345, "aTOMATOaAUBERGINEaGRAPESaMELONaWATERMELONaTANGERINEaLEMONaBANANAaPINEAPPLE"),
   (0x1F34E, "aRED APPLEaGREEN APPLEaPEARaPEACHaCHERRIESaSTRAWBERRYaHAMBURGERaSLICE OF PIZZA"),
   (0x1F356, "aMEAT ON BONEaPOULTRY LEGaRICE CRACKERbBALLaCOOKED RICEaCURRY AND RICE"),
   (0x1F35C, "aSTEAMING BOWLaSPAGHETTIaBREADaFRENCH FRIESaROASTED SWEET POTATOaDANGOaODEN"),
   (0x1F363, "aSUSHIaFRIED SHRIMPaFISH CAKE WITH SWIRL DESIGNaSOFT ICE CREAMaSHAVED ICE"),
   (0x1F368, "aICE CREAMaDOUGHNUTaCOOKIEaCHOCOLATE BARaCANDYaLOLLIPOPaCUSTARDaHONEY POT"),
   (0x1F370, "aSHORTCAKEaBENTO BOXaPOT OF FOODaCOOKINGaFORK AND KNIFEaTEACUP WITHOUT HANDLE"),
   (0x1F376, "aSAKE BOTTLE AND CUPaWINE GLASSaCOCKTAIL GLASSaTROPICAL DRINKaBEER MUG"),
   (0x1F37B, "aCLINKING BEER MUGSaBABY BOTTLEaFORK AND KNIFE WITH PLATE"),
   (0x1F37E, "aBOTTLE WITH POPPING CORKaPOPCORNaRIBBONaWRAPPED PRESENTaBIRTHDAY CAKE"),
   (0x1F383, "aJACK-O-LANTERNaCHRISTMAS TREEaFATHER CHRISTMASaFIREWORKSaFIREWORK SPARKLER"),
   (0x1F388, "aBALLOONaPARTY POPPERaCONFETTI BALLaTANABATA TREEaCROSSED FLAGS"),
   (0x1F38D, "aPINE DECORATIONaJAPANESE DOLLSaCARP STREAMERaWIND CHIMEaMOON VIEWING CEREMONY"),
   (0x1F392, "aSCHOOL SATCHELaGRADUATION CAPaHEART WITH TIP ON THE LEFTaBOUQUET OF FLOWERS"),
   (0x1F396, "aMILITARY MEDALaREMINDER RIBBONaMUSICAL KEYBOARD WITH JACKSaSTUDIO MICROPHONE"),
   (0x1F39A, "aLEVEL SLIDERaCONTROL KNOBSaBEAMED ASCENDING MUSICAL NOTES"),
   (0x1F39D, "bDESCENDING MUSICAL NOTESaFILM FRAMESaADMISSION TICKETSaCAROUSEL HORSE"),
   (0x1F3A1, "aFERRIS WHEELaROLLER COASTERaFISHING POLE AND FISHaMICROPHONEaMOVIE CAMERA"),
   (0x1F3A6, "aCINEMAaHEADPHONEaARTIST PALETTEaTOP HATaCIRCUS TENTaTICKETaCLAPPER BOARD"),
   (0x1F3AD, "aPERFORMING ARTSaVIDEO GAMEaDIRECT HITaSLOT MACHINEaBILLIARDSaGAME DIEaBOWLING"),
   (0x1F3B4, "aFLOWER PLAYING CARDSaMUSICAL NOTEaMULTIPLE MUSICAL NOTESaSAXOPHONEaGUITAR"),
   (0x1F3B9, "aMUSICAL KEYBOARDaTRUMPETaVIOLINaMUSICAL SCOREaRUNNING SHIRT WITH SASH"),
   (0x1F3BE, "aTENNIS RACQUET AND BALLaSKI AND SKI BOOTaBASKETBALL AND HOOPaCHEQUERED FLAG"),
   (0x1F3C2, "aSNOWBOARDERaRUNNERaSURFERaSPORTS MEDALaTROPHYaHORSE RACINGaAMERICAN FOOTBALL"),
   (0x1F3C9, "aRUGBY FOOTBALLaSWIMMERaWEIGHT LIFTERaGOLFERaRACING MOTORCYCLEbCAR"),
   (0x1F3CF, "aCRICKET BAT AND BALLaVOLLEYBALLaFIELD HOCKEY STICK AND BALL"),
   (0x1F3D2, "aICE HOCKEY STICK AND PUCKaTABLE TENNIS PADDLE AND BALLaSNOW CAPPED MOUNTAIN"),
   (0x1F3D5, "aCAMPINGaBEACH WITH UMBRELLAaBUILDING CONSTRUCTIONaHOUSE BUILDINGSaCITYSCAPE"),
   (0x1F3DA, "aDERELICT HOUSE BUILDINGaCLASSICAL BUILDINGaDESERTaDESERT ISLANDaNATIONAL PARK"),
   (0x1F3DF, "aSTADIUMaHOUSE BUILDINGbWITH GARDENaOFFICE BUILDINGaJAPANESE POST OFFICE"),
   (0x1F3E4, "aEUROPEAN POST OFFICEaHOSPITALaBANKaAUTOMATED TELLER MACHINEaHOTELaLOVE HOTEL"),
   (0x1F3EA, "aCONVENIENCE STOREaSCHOOLaDEPARTMENT STOREaFACTORYaIZAKAYA LANTERN"),
   (0x1F3EF, "aJAPANESE CASTLEaEUROPEAN CASTLEaWHITE PENNANTaBLACK PENNANTaWAVING WHITE FLAG"),
   (0x1F3F4, "bBLACK FLAGaROSETTEaBLACK ROSETTEaLABELaBADMINTON RACQUET AND SHUTTLECOCK"),
   (0x1F3F9, "aBOW AND ARROWaAMPHORAaEMOJI MODIFIER FITZPATRICK TYPE-1-2e3e4e5e6aRATaMOUSE"),
   (0x1F402, "aOXaWATER BUFFALOaCOWaTIGERaLEOPARDaRABBITaCATaDRAGONaCROCODILEaWHALEaSNAIL"),
   (0x1F40D, "aSNAKEaHORSEaRAMaGOATaSHEEPaMONKEYaROOSTERaCHICKENaDOGaPIGaBOARaELEPHANT"),
   (0x1F419, "aOCTOPUSaSPIRAL SHELLaBUGaANTaHONEYBEEaLADY BEETLEaFISHaTROPICAL FISHaBLOWFISH"),
   (0x1F422, "aTURTLEaHATCHING CHICKaBABY CHICKaFRONT-FACING BABY CHICKaBIRDaPENGUINaKOALA"),
   (0x1F429, "aPOODLEaDROMEDARY CAMELaBACTRIAN CAMELaDOLPHINaMOUSE FACEaCOW FACEaTIGER FACE"),
   (0x1F430, "aRABBIT FACEaCAT FACEaDRAGON FACEaSPOUTING WHALEaHORSE FACEaMONKEY FACE"),
   (0x1F436, "aDOG FACEaPIG FACEaFROG FACEaHAMSTER FACEaWOLF FACEaBEAR FACEaPANDA FACE"),
   (0x1F43D, "aPIG NOSEaPAW PRINTSaCHIPMUNKaEYESaEYEaEARaNOSEaMOUTHaTONGUE"),
   (0x1F446, "aWHITE UP POINTING BACKHAND INDEXbDOWN POINTING BACKHAND INDEX"),
   (0x1F448, "bLEFT POINTING BACKHAND INDEXbRIGHT POINTING BACKHAND INDEXaFISTED HAND SIGN"),
   (0x1F44B, "aWAVING HAND SIGNaOK HAND SIGNaTHUMBS UP SIGNbDOWN SIGNaCLAPPING HANDS SIGN"),
   (0x1F450, "aOPEN HANDS SIGNaCROWNaWOMANS HATaEYEGLASSESaNECKTIEaT-SHIRTaJEANSaDRESS"),
   (0x1F458, "aKIMONOaBIKINIaWOMANS CLOTHESaPURSEaHANDBAGaPOUCHaMANS SHOEaATHLETIC SHOE"),
   (0x1F460, "aHIGH-HEELED SHOEaWOMANS SANDALbBOOTSaFOOTPRINTSaBUST IN SILHOUETTE"),
   (0x1F465, "aBUSTS IN SILHOUETTEaBOYaGIRLaMANaWOMANaFAMILYaMAN AND WOMAN HOLDING HANDS"),
   (0x1F46C, "aTWO MEN HOLDING HANDSbWOMEN HOLDING HANDSaPOLICE OFFICER"),
   (0x1F46F, "aWOMAN WITH BUNNY EARSaBRIDE WITH VEILaPERSON WITH BLOND HAIR"),
   (0x1F472, "aMAN WITH GUA PI MAOcTURBANaOLDER MANbWOMANaBABYaCONSTRUCTION WORKERaPRINCESS"),
   (0x1F479, "aJAPANESE OGREbGOBLINaGHOSTaBABY ANGELaEXTRATERRESTRIAL ALIENaALIEN MONSTER"),
   (0x1F47F, "aIMPaSKULLaINFORMATION DESK PERSONaGUARDSMANaDANCERaLIPSTICKaNAIL POLISH"),
   (0x1F486, "aFACE MASSAGEaHAIRCUTaBARBER POLEaSYRINGEaPILLaKISS MARKaLOVE LETTERaRING"),
   (0x1F48E, "aGEM STONEaKISSaBOUQUETaCOUPLE WITH HEARTaWEDDINGaBEATING HEARTaBROKEN HEART"),
   (0x1F495, "aTWO HEARTSaSPARKLING HEARTaGROWING HEARTaHEART WITH ARROWaBLUE HEART"),
   (0x1F49A, "aGREEN HEARTaYELLOW HEARTaPURPLE HEARTaHEART WITH RIBBONaREVOLVING HEARTS"),
   (0x1F49F, "aHEART DECORATIONaDIAMOND SHAPE WITH A DOT INSIDEaELECTRIC LIGHT BULB"),
   (0x1F4A2, "aANGER SYMBOLaBOMBaSLEEPING SYMBOLaCOLLISION SYMBOLaSPLASHING SWEAT SYMBOL"),
   (0x1F4A7, "aDROPLETaDASH SYMBOLaPILE OF POOaFLEXED BICEPSaDIZZY SYMBOLaSPEECH BALLOON"),
   (0x1F4AD, "aTHOUGHT BALLOONaWHITE FLOWERaHUNDRED POINTS SYMBOLaMONEY BAG"),
   (0x1F4B1, "aCURRENCY EXCHANGEaHEAVY DOLLAR SIGNaCREDIT CARDaBANKNOTE WITH YEN SIGN"),
   (0x1F4B5, "cDOLLAR SIGNcEURO SIGNcPOUND SIGNaMONEY WITH WINGS"),
   (0x1F4B9, "aCHART WITH UPWARDS TREND AND YEN SIGNaSEATaPERSONAL COMPUTERaBRIEFCASE"),
   (0x1F4BD, "aMINIDISCaFLOPPY DISKaOPTICAL DISCaDVDaFILE FOLDERaOPEN FILE FOLDER"),
   (0x1F4C3, "aPAGE WITH CURLbFACING UPaCALENDARaTEAR-OFF CALENDARaCARD INDEX"),
   (0x1F4C8, "aCHART WITH UPWARDS TRENDcDOWNWARDS TRENDaBAR CHARTaCLIPBOARDaPUSHPIN"),
   (0x1F4CD, "aROUND PUSHPINaPAPERCLIPaSTRAIGHT RULERaTRIANGULAR RULERaBOOKMARK TABSaLEDGER"),
   (0x1F4D3, "aNOTEBOOKaNOTEBOOK WITH DECORATIVE COVERaCLOSED BOOKaOPEN BOOKaGREEN BOOK"),
   (0x1F4D8, "aBLUE BOOKaORANGE BOOKaBOOKSaNAME BADGEaSCROLLaMEMOaTELEPHONE RECEIVERaPAGER"),
   (0x1F4E0, "aFAX MACHINEaSATELLITE ANTENNAaPUBLIC ADDRESS LOUDSPEAKERaCHEERING MEGAPHONE"),
   (0x1F4E4, "aOUTBOX TRAYaINBOX TRAYaPACKAGEaE-MAIL SYMBOLaINCOMING ENVELOPE"),
   (0x1F4E9, "aENVELOPE WITH DOWNWARDS ARROW ABOVEaCLOSED MAILBOX WITH LOWERED FLAG"),
   (0x1F4EB, "dRAISED FLAGaOPEN MAILBOX WITH RAISED FLAGdLOWERED FLAGaPOSTBOXaPOSTAL HORN"),
   (0x1F4F0, "aNEWSPAPERaMOBILE PHONEbPHONE WITH RIGHTWARDS ARROW AT LEFTaVIBRATION MODE"),
   (0x1F4F4, "aMOBILE PHONE OFFaNO MOBILE PHONESaANTENNA WITH BARSaCAMERAaCAMERA WITH FLASH"),
   (0x1F4F9, "aVIDEO CAMERAaTELEVISIONaRADIOaVIDEOCASSETTEaFILM PROJECTORaPORTABLE STEREO"),
   (0x1F4FF, "aPRAYER BEADSaTWISTED RIGHTWARDS ARROWS"),
   (0x1F501, "aCLOCKWISE RIGHTWARDS AND LEFTWARDS OPEN CIRCLE ARROWS"),
   (0x1F502, "gARROWS WITH CIRCLED ONE OVERLAYbDOWNWARDS AND UPWARDS OPEN CIRCLE ARROWS"),
   (0x1F504, "aANTICLOCKWISE DOWNWARDS AND UPWARDS OPEN CIRCLE ARROWSaLOW BRIGHTNESS SYMBOL"),
   (0x1F506, "aHIGH BRIGHTNESS SYMBOLaSPEAKER WITH CANCELLATION STROKEaSPEAKER"),
   (0x1F509, "aSPEAKER WITH ONE SOUND WAVEcTHREE SOUND WAVESaBATTERYaELECTRIC PLUG"),
   (0x1F50D, "aLEFT-POINTING MAGNIFYING GLASSaRIGHT-POINTING MAGNIFYING GLASS"),
   (0x1F50F, "aLOCK WITH INK PENaCLOSED LOCK WITH KEYaKEYaLOCKaOPEN LOCKaBELL"),
   (0x1F515, "aBELL WITH CANCELLATION STROKEaBOOKMARKaLINK SYMBOLaRADIO BUTTON"),
   (0x1F519, "aBACK WITH LEFTWARDS ARROW ABOVEaEND WITH LEFTWARDS ARROW ABOVE"),
   (0x1F51B, "aON WITH EXCLAMATION MARK WITH LEFT RIGHT ARROW ABOVE"),
   (0x1F51C, "aSOON WITH RIGHTWARDS ARROW ABOVEaTOP WITH UPWARDS ARROW ABOVE"),
   (0x1F51E, "aNO ONE UNDER EIGHTEEN SYMBOLaKEYCAP TEN"),
   (0x1F520, "aINPUT SYMBOL FOR LATIN CAPITAL LETTERSeSMALL LETTERSdNUMBERSdSYMBOLS"),
   (0x1F524, "dLATIN LETTERSaFIREaELECTRIC TORCHaWRENCHaHAMMERaNUT AND BOLTaHOCHOaPISTOL"),
   (0x1F52C, "aMICROSCOPEaTELESCOPEaCRYSTAL BALLaSIX POINTED STAR WITH MIDDLE DOT"),
   (0x1F530, "aJAPANESE SYMBOL FOR BEGINNERaTRIDENT EMBLEMaBLACK SQUARE BUTTON"),
   (0x1F533, "aWHITE SQUARE BUTTONaLARGE RED CIRCLEbBLUE CIRCLEbORANGE DIAMONDbBLUE DIAMOND"),
   (0x1F538, "aSMALL ORANGE DIAMONDbBLUE DIAMONDaUP-POINTING RED TRIANGLE"),
   (0x1F53B, "aDOWN-POINTING RED TRIANGLEaUP-POINTING SMALL RED TRIANGLE"),
   (0x1F53D, "aDOWN-POINTING SMALL RED TRIANGLEaLOWER RIGHT SHADOWED WHITE CIRCLE"),
   (0x1F53F, "aUPPER RIGHT SHADOWED WHITE CIRCLEaCIRCLED CROSS POMMEE"),
   (0x1F541, "aCROSS POMMEE WITH HALF-CIRCLE BELOWbPOMMEE"),
   (0x1F543, "aNOTCHED LEFT SEMICIRCLE WITH THREE DOTSbRIGHT SEMICIRCLE WITH THREE DOTS"),
   (0x1F545, "aSYMBOL FOR MARKS CHAPTERaWHITE LATIN CROSSaHEAVY LATIN CROSSaCELTIC CROSS"),
   (0x1F549, "aOM SYMBOLaDOVE OF PEACEaKAABAaMOSQUEaSYNAGOGUEaMENORAH WITH NINE BRANCHES"),
   (0x1F54F, "aBOWL OF HYGIEIAaCLOCK FACE ONE OCLOCKcTWO OCLOCKcTHREE OCLOCKcFOUR OCLOCK"),
   (0x1F554, "cFIVE OCLOCKcSIX OCLOCKcSEVEN OCLOCKcEIGHT OCLOCKcNINE OCLOCKcTEN OCLOCK"),
   (0x1F55A, "cELEVEN OCLOCKcTWELVE OCLOCKcONE-THIRTYcTWO-THIRTYcTHREE-THIRTYcFOUR-THIRTY"),
   (0x1F560, "cFIVE-THIRTYcSIX-THIRTYcSEVEN-THIRTYcEIGHT-THIRTYcNINE-THIRTYcTEN-THIRTY"),
   (0x1F566, "cELEVEN-THIRTYcTWELVE-THIRTYaRIGHT SPEAKERbSPEAKER WITH ONE SOUND WAVE"),
   (0x1F56A, "dTHREE SOUND WAVESaBULLHORNaBULLHORN WITH SOUND WAVESaRINGING BELLaBOOKaCANDLE"),
   (0x1F570, "aMANTELPIECE CLOCKaBLACK SKULL AND CROSSBONESaNO PIRACYaHOLE"),
   (0x1F574, "aMAN IN BUSINESS SUIT LEVITATINGaSLEUTH OR SPYaDARK SUNGLASSESaSPIDER"),
   (0x1F578, "aSPIDER WEBaJOYSTICKaMAN DANCINGaLEFT HAND TELEPHONE RECEIVER"),
   (0x1F57C, "aTELEPHONE RECEIVER WITH PAGEaRIGHT HAND TELEPHONE RECEIVER"),
   (0x1F57E, "aWHITE TOUCHTONE TELEPHONEaBLACK TOUCHTONE TELEPHONEaTELEPHONE ON TOP OF MODEM"),
   (0x1F581, "aCLAMSHELL MOBILE PHONEaBACK OF ENVELOPEaSTAMPED ENVELOPE"),
   (0x1F584, "aENVELOPE WITH LIGHTNINGaFLYING ENVELOPEaPEN OVER STAMPED ENVELOPE"),
   (0x1F587, "aLINKED PAPERCLIPSaBLACK PUSHPINaLOWER LEFT PENCILcBALLPOINT PENcFOUNTAIN PEN"),
   (0x1F58C, "cPAINTBRUSHcCRAYONaLEFT WRITING HANDaTURNED OK HAND SIGN"),
   (0x1F590, "aRAISED HAND WITH FINGERS SPLAYEDaREVERSED RAISED HAND WITH FINGERS SPLAYED"),
   (0x1F592, "bTHUMBS UP SIGNcDOWN SIGNbVICTORY HANDbHAND WITH MIDDLE FINGER EXTENDED"),
   (0x1F596, "aRAISED HAND WITH PART BETWEEN MIDDLE AND RING FINGERS"),
   (0x1F597, "aWHITE DOWN POINTING LEFT HAND INDEXaSIDEWAYS WHITE LEFT POINTING INDEX"),
   (0x1F599, "cRIGHT POINTING INDEXbBLACK LEFT POINTING INDEXcRIGHT POINTING INDEX"),
   (0x1F59C, "aBLACK LEFT POINTING BACKHAND INDEXbRIGHT POINTING BACKHAND INDEX"),
   (0x1F59E, "aSIDEWAYS WHITE UP POINTING INDEXcDOWN POINTING INDEXbBLACK UP POINTING INDEX"),
   (0x1F5A1, "cDOWN POINTING INDEXaBLACK UP POINTING BACKHAND INDEX"),
   (0x1F5A3, "bDOWN POINTING BACKHAND INDEXbHEARTaDESKTOP COMPUTERaKEYBOARD AND MOUSE"),
   (0x1F5A7, "aTHREE NETWORKED COMPUTERSaPRINTERaPOCKET CALCULATOR"),
   (0x1F5AA, "aBLACK HARD SHELL FLOPPY DISKaWHITE HARD SHELL FLOPPY DISK"),
   (0x1F5AC, "aSOFT SHELL FLOPPY DISKaTAPE CARTRIDGEaWIRED KEYBOARDaONE BUTTON MOUSE"),
   (0x1F5B0, "aTWO BUTTON MOUSEaTHREE BUTTON MOUSEaTRACKBALLaOLD PERSONAL COMPUTERaHARD DISK"),
   (0x1F5B5, "aSCREENaPRINTER ICONaFAX ICONaOPTICAL DISC ICONaDOCUMENT WITH TEXT"),
   (0x1F5BA, "cTEXT AND PICTUREcPICTUREaFRAME WITH PICTUREcTILEScAN XaBLACK FOLDERaFOLDER"),
   (0x1F5C1, "aOPEN FOLDERaCARD INDEX DIVIDERSbFILE BOXaFILE CABINETaEMPTY NOTEbNOTE PAGE"),
   (0x1F5C7, "cPADaNOTEaNOTE PAGEbPADaEMPTY DOCUMENTbPAGEbPAGESaDOCUMENTaPAGEaPAGES"),
   (0x1F5D1, "aWASTEBASKETaSPIRAL NOTE PADbCALENDAR PADaDESKTOP WINDOWaMINIMIZEaMAXIMIZE"),
   (0x1F5D7, "aOVERLAPaCLOCKWISE RIGHT AND LEFT SEMICIRCLE ARROWSaCANCELLATION X"),
   (0x1F5DA, "aINCREASE FONT SIZE SYMBOLaDECREASE FONT SIZE SYMBOLaCOMPRESSIONaOLD KEY"),
   (0x1F5DE, "aROLLED-UP NEWSPAPERaPAGE WITH CIRCLED TEXTaSTOCK CHARTaDAGGER KNIFEaLIPS"),
   (0x1F5E3, "aSPEAKING HEAD IN SILHOUETTEaTHREE RAYS ABOVEcBELOWcLEFTcRIGHT"),
   (0x1F5E8, "aLEFT SPEECH BUBBLEaRIGHT SPEECH BUBBLEaTWO SPEECH BUBBLES"),
   (0x1F5EB, "aTHREE SPEECH BUBBLESaLEFT THOUGHT BUBBLEaRIGHT THOUGHT BUBBLE"),
   (0x1F5EE, "aLEFT ANGER BUBBLEaRIGHT ANGER BUBBLEaMOOD BUBBLEaLIGHTNING MOOD BUBBLEbMOOD"),
   (0x1F5F3, "aBALLOT BOX WITH BALLOTbSCRIPT XbBOX WITH SCRIPT XbBOLD SCRIPT X"),
   (0x1F5F7, "bBOX WITH BOLD SCRIPT XaLIGHT CHECK MARKaBALLOT BOX WITH BOLD CHECKaWORLD MAP"),
   (0x1F5FB, "aMOUNT FUJIaTOKYO TOWERaSTATUE OF LIBERTYaSILHOUETTE OF JAPANaMOYAI"),
   (0x1F600, "aGRINNING FACEbFACE WITH SMILING EYESaFACE WITH TEARS OF JOY"),
   (0x1F603, "aSMILING FACE WITH OPEN MOUTHeMOUTH AND SMILING EYESgCOLD SWEAT"),
   (0x1F606, "gTIGHTLY-CLOSED EYESdHALOdHORNSaWINKING FACEaSMILING FACE WITH SMILING EYES"),
   (0x1F60B, "aFACE SAVOURING DELICIOUS FOODaRELIEVED FACE"),
   (0x1F60D, "aSMILING FACE WITH HEART-SHAPED EYESdSUNGLASSESaSMIRKING FACEaNEUTRAL FACE"),
   (0x1F611, "aEXPRESSIONLESS FACEaUNAMUSED FACEaFACE WITH COLD SWEATaPENSIVE FACE"),
   (0x1F615, "aCONFUSED FACEaCONFOUNDED FACEaKISSING FACEaFACE THROWING A KISS"),
   (0x1F619, "aKISSING FACE WITH SMILING EYESdCLOSED EYESaFACE WITH STUCK-OUT TONGUE"),
   (0x1F61C, "eTONGUE AND WINKING EYEgTIGHTLY-CLOSED EYESaDISAPPOINTED FACEaWORRIED FACE"),
   (0x1F620, "aANGRY FACEaPOUTING FACEaCRYING FACEaPERSEVERING FACE"),
   (0x1F624, "aFACE WITH LOOK OF TRIUMPHaDISAPPOINTED BUT RELIEVED FACE"),
   (0x1F626, "aFROWNING FACE WITH OPEN MOUTHaANGUISHED FACEaFEARFUL FACEaWEARY FACE"),
   (0x1F62A, "aSLEEPY FACEaTIRED FACEaGRIMACING FACEaLOUDLY CRYING FACEaFACE WITH OPEN MOUTH"),
   (0x1F62F, "aHUSHED FACEaFACE WITH OPEN MOUTH AND COLD SWEATbSCREAMING IN FEAR"),
   (0x1F632, "aASTONISHED FACEaFLUSHED FACEaSLEEPING FACEaDIZZY FACEaFACE WITHOUT MOUTH"),
   (0x1F637, "bWITH MEDICAL MASKaGRINNING CAT FACE WITH SMILING EYES"),
   (0x1F639, "aCAT FACE WITH TEARS OF JOYaSMILING CAT FACE WITH OPEN MOUTHeHEART-SHAPED EYES"),
   (0x1F63C, "aCAT FACE WITH WRY SMILEaKISSING CAT FACE WITH CLOSED EYESaPOUTING CAT FACE"),
   (0x1F63F, "aCRYING CAT FACEaWEARY CAT FACEaSLIGHTLY FROWNING FACEbSMILING FACE"),
   (0x1F643, "aUPSIDE-DOWN FACEaFACE WITH ROLLING EYEScNO GOOD GESTUREcOK GESTURE"),
   (0x1F647, "aPERSON BOWING DEEPLYaSEE-NO-EVIL MONKEYaHEAR-NO-EVIL MONKEY"),
   (0x1F64A, "aSPEAK-NO-EVIL MONKEYaHAPPY PERSON RAISING ONE HAND"),
   (0x1F64C, "aPERSON RAISING BOTH HANDS IN CELEBRATIONbFROWNINGbWITH POUTING FACE"),
   (0x1F64F, "cFOLDED HANDSaNORTH WEST POINTING LEAFaSOUTH WEST POINTING LEAF"),
   (0x1F652, "aNORTH EAST POINTING LEAFaSOUTH EAST POINTING LEAF"),
   (0x1F654, "aTURNED NORTH WEST POINTING LEAFbSOUTH WEST POINTING LEAF"),
   (0x1F656, "bNORTH EAST POINTING LEAFbSOUTH EAST POINTING LEAF"),
   (0x1F658, "aNORTH WEST POINTING VINE LEAFaSOUTH WEST POINTING VINE LEAF"),
   (0x1F65A, "aNORTH EAST POINTING VINE LEAFaSOUTH EAST POINTING VINE LEAF"),
   (0x1F65C, "aHEAVY NORTH WEST POINTING VINE LEAFbSOUTH WEST POINTING VINE LEAF"),
   (0x1F65E, "bNORTH EAST POINTING VINE LEAFbSOUTH EAST POINTING VINE LEAF"),
   (0x1F660, "aNORTH WEST POINTING BUDaSOUTH WEST POINTING BUDaNORTH EAST POINTING BUD"),
   (0x1F663, "aSOUTH EAST POINTING BUDaHEAVY NORTH WEST POINTING BUDbSOUTH WEST POINTING BUD"),
   (0x1F666, "bNORTH EAST POINTING BUDbSOUTH EAST POINTING BUDaHOLLOW QUILT SQUARE ORNAMENT"),
   (0x1F669, "dORNAMENT IN BLACK SQUAREaSOLID QUILT SQUARE ORNAMENTdORNAMENT IN BLACK SQUARE"),
   (0x1F66C, "aLEFTWARDS ROCKETaUPWARDS ROCKETaRIGHTWARDS ROCKETaDOWNWARDS ROCKET"),
   (0x1F670, "aSCRIPT LIGATURE ET ORNAMENTaHEAVY SCRIPT LIGATURE ET ORNAMENT"),
   (0x1F672, "aLIGATURE OPEN ET ORNAMENTaHEAVY LIGATURE OPEN ET ORNAMENTbAMPERSAND ORNAMENT"),
   (0x1F675, "aSWASH AMPERSAND ORNAMENT"),
   (0x1F676, "aSANS-SERIF HEAVY DOUBLE TURNED COMMA QUOTATION MARK ORNAMENT"),
   (0x1F677, "eCOMMA QUOTATION MARK ORNAMENTdLOW DOUBLE COMMA QUOTATION MARK ORNAMENT"),
   (0x1F679, "aHEAVY INTERROBANG ORNAMENTaSANS-SERIF INTERROBANG ORNAMENT"),
   (0x1F67B, "aHEAVY SANS-SERIF INTERROBANG ORNAMENTaVERY HEAVY SOLIDUScREVERSE SOLIDUS"),
   (0x1F67E, "aCHECKER BOARDaREVERSE CHECKER BOARDaROCKETaHELICOPTERaSTEAM LOCOMOTIVE"),
   (0x1F683, "aRAILWAY CARaHIGH-SPEED TRAINcTRAIN WITH BULLET NOSEaTRAINaMETROaLIGHT RAIL"),
   (0x1F689, "aSTATIONaTRAMaTRAM CARaBUSaONCOMING BUSaTROLLEYBUSaBUS STOPaMINIBUSaAMBULANCE"),
   (0x1F692, "aFIRE ENGINEaPOLICE CARaONCOMING POLICE CARaTAXIaONCOMING TAXIaAUTOMOBILE"),
   (0x1F698, "aONCOMING AUTOMOBILEaRECREATIONAL VEHICLEaDELIVERY TRUCKaARTICULATED LORRY"),
   (0x1F69C, "aTRACTORaMONORAILaMOUNTAIN RAILWAYaSUSPENSION RAILWAYaMOUNTAIN CABLEWAY"),
   (0x1F6A1, "aAERIAL TRAMWAYaSHIPaROWBOATaSPEEDBOATaHORIZONTAL TRAFFIC LIGHT"),
   (0x1F6A6, "aVERTICAL TRAFFIC LIGHTaCONSTRUCTION SIGNaPOLICE CARS REVOLVING LIGHT"),
   (0x1F6A9, "aTRIANGULAR FLAG ON POSTaDOORaNO ENTRY SIGNaSMOKING SYMBOLaNO SMOKING SYMBOL"),
   (0x1F6AE, "aPUT LITTER IN ITS PLACE SYMBOLaDO NOT LITTER SYMBOLaPOTABLE WATER SYMBOL"),
   (0x1F6B1, "aNON-POTABLE WATER SYMBOLaBICYCLEaNO BICYCLESaBICYCLISTaMOUNTAIN BICYCLIST"),
   (0x1F6B6, "aPEDESTRIANaNO PEDESTRIANSaCHILDREN CROSSINGaMENS SYMBOLaWOMENS SYMBOL"),
   (0x1F6BB, "aRESTROOMaBABY SYMBOLaTOILETaWATER CLOSETaSHOWERaBATHaBATHTUBaPASSPORT CONTROL"),
   (0x1F6C3, "aCUSTOMSaBAGGAGE CLAIMaLEFT LUGGAGEaTRIANGLE WITH ROUNDED CORNERS"),
   (0x1F6C7, "aPROHIBITED SIGNaCIRCLED INFORMATION SOURCEaBOYS SYMBOLaGIRLS SYMBOL"),
   (0x1F6CB, "aCOUCH AND LAMPaSLEEPING ACCOMMODATIONaSHOPPING BAGSaBELLHOP BELLaBED"),
   (0x1F6D0, "aPLACE OF WORSHIPaOCTAGONAL SIGNaSHOPPING TROLLEYaSTUPAaPAGODAaHINDU TEMPLE"),
   (0x1F6D6, "aHUTaELEVATOR"),
   (0x1F6DD, "aPLAYGROUND SLIDEaWHEELaRING BUOYaHAMMER AND WRENCHaSHIELDaOIL DRUMaMOTORWAY"),
   (0x1F6E4, "aRAILWAY TRACKaMOTOR BOATaUP-POINTING MILITARY AIRPLANEcAIRPLANE"),
   (0x1F6E8, "cSMALL AIRPLANEaSMALL AIRPLANEaNORTHEAST-POINTING AIRPLANEaAIRPLANE DEPARTURE"),
   (0x1F6EC, "bARRIVING"),
   (0x1F6F0, "aSATELLITEaONCOMING FIRE ENGINEaDIESEL LOCOMOTIVEaPASSENGER SHIPaSCOOTER"),
   (0x1F6F5, "aMOTOR SCOOTERaCANOEaSLEDaFLYING SAUCERaSKATEBOARDaAUTO RICKSHAWaPICKUP TRUCK"),
   (0x1F6FC, "aROLLER SKATE"),
   (0x1F700, "aALCHEMICAL SYMBOL FOR QUINTESSENCEdAIRdFIREdEARTHdWATERdAQUAFORTISdAQUA REGIA"),
   (0x1F707, "eREGIA-2eVITAEeVITAE-2dVINEGARdVINEGAR-2e3dSULFURdPHILOSOPHERS SULFUR"),
   (0x1F70F, "dBLACK SULFURdMERCURY SUBLIMATEeSUBLIMATE-2f3dCINNABARdSALTdNITREdVITRIOL"),
   (0x1F717, "dVITRIOL-2dROCK SALTeSALT-2dGOLDdSILVERdIRON OREeORE-2dCROCUS OF IRON"),
   (0x1F71F, "dREGULUS OF IRONdCOPPER OREdIRON-COPPER OREdSUBLIMATE OF COPPER"),
   (0x1F723, "dCROCUS OF COPPERfCOPPER-2dCOPPER ANTIMONIATEdSALT OF COPPER ANTIMONIATE"),
   (0x1F727, "dSUBLIMATE OF SALT OF COPPERdVERDIGRISdTIN OREdLEAD OREdANTIMONY ORE"),
   (0x1F72C, "dSUBLIMATE OF ANTIMONYdSALT OF ANTIMONYdSUBLIMATE OF SALT OF ANTIMONY"),
   (0x1F72F, "dVINEGAR OF ANTIMONYdREGULUS OF ANTIMONYfANTIMONY-2dREGULUSdREGULUS-2e3e4"),
   (0x1F736, "dALKALIdALKALI-2dMARCASITEdSAL-AMMONIACdARSENICdREALGARdREALGAR-2dAURIPIGMENT"),
   (0x1F73E, "dBISMUTH OREdTARTARdTARTAR-2dQUICK LIMEdBORAXdBORAX-2e3dALUMdOILdSPIRIT"),
   (0x1F748, "dTINCTUREdGUMdWAXdPOWDERdCALXdTUTTYdCAPUT MORTUUMdSCEPTER OF JOVEdCADUCEUS"),
   (0x1F751, "dTRIDENTdSTARRED TRIDENTdLODESTONEdSOAPdURINEdHORSE DUNGdASHESdPOT ASHESdBRICK"),
   (0x1F75A, "dPOWDERED BRICKdAMALGAMdSTRATUM SUPER STRATUMfSTRATUM-2dSUBLIMATION"),
   (0x1F75F, "dPRECIPITATEdDISTILLdDISSOLVEdDISSOLVE-2dPURIFYdPUTREFACTIONdCRUCIBLE"),
   (0x1F766, "dCRUCIBLE-2e3e4e5dALEMBICdBATH OF MARYfVAPOURSdRETORTdHOURdNIGHTdDAY-NIGHT"),
   (0x1F771, "dMONTHdHALF DRAMeOUNCE"),
   (0x1F780, "aBLACK LEFT-POINTING ISOSCELES RIGHT TRIANGLE"),
   (0x1F781, "bUP-POINTING ISOSCELES RIGHT TRIANGLEbRIGHT-POINTING ISOSCELES RIGHT TRIANGLE"),
   (0x1F783, "bDOWN-POINTING ISOSCELES RIGHT TRIANGLEbSLIGHTLY SMALL CIRCLE"),
   (0x1F785, "aMEDIUM BOLD WHITE CIRCLEaBOLD WHITE CIRCLEaHEAVY WHITE CIRCLE"),
   (0x1F788, "aVERY HEAVY WHITE CIRCLEaEXTREMELY HEAVY WHITE CIRCLE"),
   (0x1F78A, "aWHITE CIRCLE CONTAINING BLACK SMALL CIRCLEaROUND TARGETaBLACK TINY SQUARE"),
   (0x1F78D, "bSLIGHTLY SMALL SQUAREaLIGHT WHITE SQUAREaMEDIUM WHITE SQUARE"),
   (0x1F790, "aBOLD WHITE SQUAREaHEAVY WHITE SQUAREaVERY HEAVY WHITE SQUARE"),
   (0x1F793, "aEXTREMELY HEAVY WHITE SQUAREaWHITE SQUARE CONTAINING BLACK VERY SMALL SQUARE"),
   (0x1F795, "eMEDIUM SQUAREaSQUARE TARGETaBLACK TINY DIAMONDbVERY SMALL DIAMOND"),
   (0x1F799, "bMEDIUM SMALL DIAMONDaWHITE DIAMOND CONTAINING BLACK VERY SMALL DIAMOND"),
   (0x1F79B, "eMEDIUM DIAMONDaDIAMOND TARGETaBLACK TINY LOZENGEbVERY SMALL LOZENGE"),
   (0x1F79F, "bMEDIUM SMALL LOZENGEaWHITE LOZENGE CONTAINING BLACK SMALL LOZENGE"),
   (0x1F7A1, "aTHIN GREEK CROSSaLIGHT GREEK CROSSaMEDIUM GREEK CROSSaBOLD GREEK CROSS"),
   (0x1F7A5, "aVERY BOLD GREEK CROSSbHEAVY GREEK CROSSaEXTREMELY HEAVY GREEK CROSS"),
   (0x1F7A8, "aTHIN SALTIREaLIGHT SALTIREaMEDIUM SALTIREaBOLD SALTIREaHEAVY SALTIRE"),
   (0x1F7AD, "aVERY HEAVY SALTIREaEXTREMELY HEAVY SALTIREaLIGHT FIVE SPOKED ASTERISK"),
   (0x1F7B0, "aMEDIUM FIVE SPOKED ASTERISKaBOLD FIVE SPOKED ASTERISK"),
   (0x1F7B2, "aHEAVY FIVE SPOKED ASTERISKaVERY HEAVY FIVE SPOKED ASTERISK"),
   (0x1F7B4, "aEXTREMELY HEAVY FIVE SPOKED ASTERISKaLIGHT SIX SPOKED ASTERISK"),
   (0x1F7B6, "aMEDIUM SIX SPOKED ASTERISKaBOLD SIX SPOKED ASTERISKaHEAVY SIX SPOKED ASTERISK"),
   (0x1F7B9, "aVERY HEAVY SIX SPOKED ASTERISKaEXTREMELY HEAVY SIX SPOKED ASTERISK"),
   (0x1F7BB, "aLIGHT EIGHT SPOKED ASTERISKaMEDIUM EIGHT SPOKED ASTERISK"),
   (0x1F7BD, "aBOLD EIGHT SPOKED ASTERISKaHEAVY EIGHT SPOKED ASTERISK"),
   (0x1F7BF, "aVERY HEAVY EIGHT SPOKED ASTERISKaLIGHT THREE POINTED BLACK STAR"),
   (0x1F7C1, "aMEDIUM THREE POINTED BLACK STARaTHREE POINTED BLACK STAR"),
   (0x1F7C3, "aMEDIUM THREE POINTED PINWHEEL STARaLIGHT FOUR POINTED BLACK STAR"),
   (0x1F7C5, "aMEDIUM FOUR POINTED BLACK STARaFOUR POINTED BLACK STAR"),
   (0x1F7C7, "aMEDIUM FOUR POINTED PINWHEEL STARaREVERSE LIGHT FOUR POINTED PINWHEEL STAR"),
   (0x1F7C9, "aLIGHT FIVE POINTED BLACK STARaHEAVY FIVE POINTED BLACK STAR"),
   (0x1F7CB, "aMEDIUM SIX POINTED BLACK STARaHEAVY SIX POINTED BLACK STAR"),
   (0x1F7CD, "aSIX POINTED PINWHEEL STARaMEDIUM EIGHT POINTED BLACK STAR"),
   (0x1F7CF, "aHEAVY EIGHT POINTED BLACK STARaVERY HEAVY EIGHT POINTED BLACK STAR"),
   (0x1F7D1, "aHEAVY EIGHT POINTED PINWHEEL STARaLIGHT TWELVE POINTED BLACK STAR"),
   (0x1F7D3, "aHEAVY TWELVE POINTED BLACK STARdPINWHEEL STARaCIRCLED TRIANGLE"),
   (0x1F7D6, "aNEGATIVE CIRCLED TRIANGLEaCIRCLED SQUAREaNEGATIVE CIRCLED SQUARE"),
   (0x1F7E0, "aLARGE ORANGE CIRCLEbYELLOW CIRCLEbGREEN CIRCLEbPURPLE CIRCLEbBROWN CIRCLE"),
   (0x1F7E5, "bRED SQUAREbBLUE SQUAREbORANGE SQUAREbYELLOW SQUAREbGREEN SQUAREbPURPLE SQUARE"),
   (0x1F7EB, "bBROWN SQUARE"),
   (0x1F7F0, "aHEAVY EQUALS SIGN"),
   (0x1F800, "aLEFTWARDS ARROW WITH SMALL TRIANGLE ARROWHEAD"),
   (0x1F801, "aUPWARDS ARROW WITH SMALL TRIANGLE ARROWHEAD"),
   (0x1F802, "aRIGHTWARDS ARROW WITH SMALL TRIANGLE ARROWHEAD"),
   (0x1F803, "aDOWNWARDS ARROW WITH SMALL TRIANGLE ARROWHEAD"),
   (0x1F804, "aLEFTWARDS ARROW WITH MEDIUM TRIANGLE ARROWHEAD"),
   (0x1F805, "aUPWARDS ARROW WITH MEDIUM TRIANGLE ARROWHEAD"),
   (0x1F806, "aRIGHTWARDS ARROW WITH MEDIUM TRIANGLE ARROWHEAD"),
   (0x1F807, "aDOWNWARDS ARROW WITH MEDIUM TRIANGLE ARROWHEAD"),
   (0x1F808, "aLEFTWARDS ARROW WITH LARGE TRIANGLE ARROWHEAD"),
   (0x1F809, "aUPWARDS ARROW WITH LARGE TRIANGLE ARROWHEAD"),
   (0x1F80A, "aRIGHTWARDS ARROW WITH LARGE TRIANGLE ARROWHEAD"),
   (0x1F80B, "aDOWNWARDS ARROW WITH LARGE TRIANGLE ARROWHEAD"),
   (0x1F810, "aLEFTWARDS ARROW WITH SMALL EQUILATERAL ARROWHEAD"),
   (0x1F811, "aUPWARDS ARROW WITH SMALL EQUILATERAL ARROWHEAD"),
   (0x1F812, "aRIGHTWARDS ARROW WITH SMALL EQUILATERAL ARROWHEAD"),
   (0x1F813, "aDOWNWARDS ARROW WITH SMALL EQUILATERAL ARROWHEAD"),
   (0x1F814, "aLEFTWARDS ARROW WITH EQUILATERAL ARROWHEAD"),
   (0x1F815, "aUPWARDS ARROW WITH EQUILATERAL ARROWHEAD"),
   (0x1F816, "aRIGHTWARDS ARROW WITH EQUILATERAL ARROWHEAD"),
   (0x1F817, "aDOWNWARDS ARROW WITH EQUILATERAL ARROWHEAD"),
   (0x1F818, "aHEAVY LEFTWARDS ARROW WITH EQUILATERAL ARROWHEAD"),
   (0x1F819, "bUPWARDS ARROW WITH EQUILATERAL ARROWHEAD"),
   (0x1F81A, "bRIGHTWARDS ARROW WITH EQUILATERAL ARROWHEAD"),
   (0x1F81B, "bDOWNWARDS ARROW WITH EQUILATERAL ARROWHEAD"),
   (0x1F81C, "bLEFTWARDS ARROW WITH LARGE EQUILATERAL ARROWHEAD"),
   (0x1F81D, "bUPWARDS ARROW WITH LARGE EQUILATERAL ARROWHEAD"),
   (0x1F81E, "bRIGHTWARDS ARROW WITH LARGE EQUILATERAL ARROWHEAD"),
   (0x1F81F, "bDOWNWARDS ARROW WITH LARGE EQUILATERAL ARROWHEAD"),
   (0x1F820, "aLEFTWARDS TRIANGLE-HEADED ARROW WITH NARROW SHAFT"),
   (0x1F821, "aUPWARDS TRIANGLE-HEADED ARROW WITH NARROW SHAFT"),
   (0x1F822, "aRIGHTWARDS TRIANGLE-HEADED ARROW WITH NARROW SHAFT"),
   (0x1F823, "aDOWNWARDS TRIANGLE-HEADED ARROW WITH NARROW SHAFT"),
   (0x1F824, "aLEFTWARDS TRIANGLE-HEADED ARROW WITH MEDIUM SHAFT"),
   (0x1F825, "aUPWARDS TRIANGLE-HEADED ARROW WITH MEDIUM SHAFT"),
   (0x1F826, "aRIGHTWARDS TRIANGLE-HEADED ARROW WITH MEDIUM SHAFT"),
   (0x1F827, "aDOWNWARDS TRIANGLE-HEADED ARROW WITH MEDIUM SHAFT"),
   (0x1F828, "aLEFTWARDS TRIANGLE-HEADED ARROW WITH BOLD SHAFT"),
   (0x1F829, "aUPWARDS TRIANGLE-HEADED ARROW WITH BOLD SHAFT"),
   (0x1F82A, "aRIGHTWARDS TRIANGLE-HEADED ARROW WITH BOLD SHAFT"),
   (0x1F82B, "aDOWNWARDS TRIANGLE-HEADED ARROW WITH BOLD SHAFT"),
   (0x1F82C, "aLEFTWARDS TRIANGLE-HEADED ARROW WITH HEAVY SHAFT"),
   (0x1F82D, "aUPWARDS TRIANGLE-HEADED ARROW WITH HEAVY SHAFT"),
   (0x1F82E, "aRIGHTWARDS TRIANGLE-HEADED ARROW WITH HEAVY SHAFT"),
   (0x1F82F, "aDOWNWARDS TRIANGLE-HEADED ARROW WITH HEAVY SHAFT"),
   (0x1F830, "aLEFTWARDS TRIANGLE-HEADED ARROW WITH VERY HEAVY SHAFT"),
   (0x1F831, "aUPWARDS TRIANGLE-HEADED ARROW WITH VERY HEAVY SHAFT"),
   (0x1F832, "aRIGHTWARDS TRIANGLE-HEADED ARROW WITH VERY HEAVY SHAFT"),
   (0x1F833, "aDOWNWARDS TRIANGLE-HEADED ARROW WITH VERY HEAVY SHAFT"),
   (0x1F834, "aLEFTWARDS FINGER-POST ARROWaUPWARDS FINGER-POST ARROW"),
   (0x1F836, "aRIGHTWARDS FINGER-POST ARROWaDOWNWARDS FINGER-POST ARROW"),
   (0x1F838, "aLEFTWARDS SQUARED ARROWaUPWARDS SQUARED ARROWaRIGHTWARDS SQUARED ARROW"),
   (0x1F83B, "aDOWNWARDS SQUARED ARROWaLEFTWARDS COMPRESSED ARROWaUPWARDS COMPRESSED ARROW"),
   (0x1F83E, "aRIGHTWARDS COMPRESSED ARROWaDOWNWARDS COMPRESSED ARROW"),
   (0x1F840, "aLEFTWARDS HEAVY COMPRESSED ARROWaUPWARDS HEAVY COMPRESSED ARROW"),
   (0x1F842, "aRIGHTWARDS HEAVY COMPRESSED ARROWaDOWNWARDS HEAVY COMPRESSED ARROW"),
   (0x1F844, "aLEFTWARDS HEAVY ARROWaUPWARDS HEAVY ARROWaRIGHTWARDS HEAVY ARROW"),
   (0x1F847, "aDOWNWARDS HEAVY ARROW"),
   (0x1F850, "aLEFTWARDS SANS-SERIF ARROWaUPWARDS SANS-SERIF ARROW"),
   (0x1F852, "aRIGHTWARDS SANS-SERIF ARROWaDOWNWARDS SANS-SERIF ARROW"),
   (0x1F854, "aNORTH WEST SANS-SERIF ARROWbEAST SANS-SERIF ARROWaSOUTH EAST SANS-SERIF ARROW"),
   (0x1F857, "bWEST SANS-SERIF ARROWaLEFT RIGHT SANS-SERIF ARROWaUP DOWN SANS-SERIF ARROW"),
   (0x1F860, "aWIDE-HEADED LEFTWARDS LIGHT BARB ARROWcUPWARDS LIGHT BARB ARROW"),
   (0x1F862, "cRIGHTWARDS LIGHT BARB ARROWcDOWNWARDS LIGHT BARB ARROW"),
   (0x1F864, "cNORTH WEST LIGHT BARB ARROWdEAST LIGHT BARB ARROWcSOUTH EAST LIGHT BARB ARROW"),
   (0x1F867, "dWEST LIGHT BARB ARROWcLEFTWARDS BARB ARROWcUPWARDS BARB ARROW"),
   (0x1F86A, "cRIGHTWARDS BARB ARROWcDOWNWARDS BARB ARROWcNORTH WEST BARB ARROW"),
   (0x1F86D, "dEAST BARB ARROWcSOUTH EAST BARB ARROWdWEST BARB ARROW"),
   (0x1F870, "cLEFTWARDS MEDIUM BARB ARROWcUPWARDS MEDIUM BARB ARROW"),
   (0x1F872, "cRIGHTWARDS MEDIUM BARB ARROWcDOWNWARDS MEDIUM BARB ARROW"),
   (0x1F874, "cNORTH WEST MEDIUM BARB ARROWdEAST MEDIUM BARB ARROW"),
   (0x1F876, "cSOUTH EAST MEDIUM BARB ARROWdWEST MEDIUM BARB ARROW"),
   (0x1F878, "cLEFTWARDS HEAVY BARB ARROWcUPWARDS HEAVY BARB ARROW"),
   (0x1F87A, "cRIGHTWARDS HEAVY BARB ARROWcDOWNWARDS HEAVY BARB ARROW"),
   (0x1F87C, "cNORTH WEST HEAVY BARB ARROWdEAST HEAVY BARB ARROWcSOUTH EAST HEAVY BARB ARROW"),
   (0x1F87F, "dWEST HEAVY BARB ARROWcLEFTWARDS VERY HEAVY BARB ARROW"),
   (0x1F881, "cUPWARDS VERY HEAVY BARB ARROWcRIGHTWARDS VERY HEAVY BARB ARROW"),
   (0x1F883, "cDOWNWARDS VERY HEAVY BARB ARROWcNORTH WEST VERY HEAVY BARB ARROW"),
   (0x1F885, "dEAST VERY HEAVY BARB ARROWcSOUTH EAST VERY HEAVY BARB ARROW"),
   (0x1F887, "dWEST VERY HEAVY BARB ARROW"),
   (0x1F890, "aLEFTWARDS TRIANGLE ARROWHEADaUPWARDS TRIANGLE ARROWHEAD"),
   (0x1F892, "aRIGHTWARDS TRIANGLE ARROWHEADaDOWNWARDS TRIANGLE ARROWHEAD"),
   (0x1F894, "aLEFTWARDS WHITE ARROW WITHIN TRIANGLE ARROWHEAD"),
   (0x1F895, "aUPWARDS WHITE ARROW WITHIN TRIANGLE ARROWHEAD"),
   (0x1F896, "aRIGHTWARDS WHITE ARROW WITHIN TRIANGLE ARROWHEAD"),
   (0x1F897, "aDOWNWARDS WHITE ARROW WITHIN TRIANGLE ARROWHEAD"),
   (0x1F898, "aLEFTWARDS ARROW WITH NOTCHED TAILaUPWARDS ARROW WITH NOTCHED TAIL"),
   (0x1F89A, "aRIGHTWARDS ARROW WITH NOTCHED TAILaDOWNWARDS ARROW WITH NOTCHED TAIL"),
   (0x1F89C, "aHEAVY ARROW SHAFT WIDTH ONEeTWO THIRDSeONE HALFfTHIRD"),
   (0x1F8A0, "aLEFTWARDS BOTTOM-SHADED WHITE ARROWaRIGHTWARDS BOTTOM SHADED WHITE ARROW"),
   (0x1F8A2, "aLEFTWARDS TOP SHADED WHITE ARROWaRIGHTWARDS TOP SHADED WHITE ARROW"),
   (0x1F8A4, "aLEFTWARDS LEFT-SHADED WHITE ARROWaRIGHTWARDS RIGHT-SHADED WHITE ARROW"),
   (0x1F8A6, "aLEFTWARDS RIGHT-SHADED WHITE ARROWaRIGHTWARDS LEFT-SHADED WHITE ARROW"),
   (0x1F8A8, "aLEFTWARDS BACK-TILTED SHADOWED WHITE ARROW"),
   (0x1F8A9, "aRIGHTWARDS BACK-TILTED SHADOWED WHITE ARROW"),
   (0x1F8AA, "aLEFTWARDS FRONT-TILTED SHADOWED WHITE ARROW"),
   (0x1F8AB, "aRIGHTWARDS FRONT-TILTED SHADOWED WHITE ARROWaWHITE ARROW SHAFT WIDTH ONE"),
   (0x1F8AD, "eTWO THIRDS"),
   (0x1F8B0, "aARROW POINTING UPWARDS THEN NORTH WESTcRIGHTWARDS THEN CURVING SOUTH WEST"),
   (0x1F900, "aCIRCLED CROSS FORMEE WITH FOUR DOTSeTWO DOTScFORMEE"),
   (0x1F903, "aLEFT HALF CIRCLE WITH FOUR DOTSeTHREE DOTSeTWO DOTSeDOTcCIRCLE"),
   (0x1F908, "aDOWNWARD FACING HOOKcNOTCHED HOOKcHOOK WITH DOTcNOTCHED HOOK WITH DOT"),
   (0x1F90C, "aPINCHED FINGERSaWHITE HEARTaBROWN HEARTaPINCHING HANDaZIPPER-MOUTH FACE"),
   (0x1F911, "aMONEY-MOUTH FACEaFACE WITH THERMOMETERaNERD FACEaTHINKING FACE"),
   (0x1F915, "aFACE WITH HEAD-BANDAGEaROBOT FACEaHUGGING FACEaSIGN OF THE HORNSaCALL ME HAND"),
   (0x1F91A, "aRAISED BACK OF HANDaLEFT-FACING FISTaRIGHT-FACING FISTaHANDSHAKE"),
   (0x1F91E, "aHAND WITH INDEX AND MIDDLE FINGERS CROSSEDaI LOVE YOU HAND SIGN"),
   (0x1F920, "aFACE WITH COWBOY HATaCLOWN FACEaNAUSEATED FACEaROLLING ON THE FLOOR LAUGHING"),
   (0x1F924, "aDROOLING FACEaLYING FACEaFACE PALMaSNEEZING FACEaFACE WITH ONE EYEBROW RAISED"),
   (0x1F929, "aGRINNING FACE WITH STAR EYESdONE LARGE AND ONE SMALL EYE"),
   (0x1F92B, "aFACE WITH FINGER COVERING CLOSED LIPS"),
   (0x1F92C, "aSERIOUS FACE WITH SYMBOLS COVERING MOUTH"),
   (0x1F92D, "aSMILING FACE WITH SMILING EYES AND HAND COVERING MOUTH"),
   (0x1F92E, "aFACE WITH OPEN MOUTH VOMITINGaSHOCKED FACE WITH EXPLODING HEADaPREGNANT WOMAN"),
   (0x1F931, "aBREAST-FEEDINGaPALMS UP TOGETHERaSELFIEaPRINCEaMAN IN TUXEDOaMOTHER CHRISTMAS"),
   (0x1F937, "aSHRUGaPERSON DOING CARTWHEELaJUGGLINGaFENCERaMODERN PENTATHLONaWRESTLERS"),
   (0x1F93D, "aWATER POLOaHANDBALLaDIVING MASKaWILTED FLOWERaDRUM WITH DRUMSTICKS"),
   (0x1F942, "aCLINKING GLASSESaTUMBLER GLASSaSPOONaGOAL NETaRIFLEaFIRST PLACE MEDAL"),
   (0x1F948, "aSECOND PLACE MEDALaTHIRD PLACE MEDALaBOXING GLOVEaMARTIAL ARTS UNIFORM"),
   (0x1F94C, "aCURLING STONEaLACROSSE STICK AND BALLaSOFTBALLaFLYING DISCaCROISSANTaAVOCADO"),
   (0x1F952, "aCUCUMBERaBACONaPOTATOaCARROTaBAGUETTE BREADaGREEN SALADaSHALLOW PAN OF FOOD"),
   (0x1F959, "aSTUFFED FLATBREADaEGGaGLASS OF MILKaPEANUTSaKIWIFRUITaPANCAKESaDUMPLING"),
   (0x1F960, "aFORTUNE COOKIEaTAKEOUT BOXaCHOPSTICKSaBOWL WITH SPOONaCUP WITH STRAWaCOCONUT"),
   (0x1F966, "aBROCCOLIaPIEaPRETZELaCUT OF MEATaSANDWICHaCANNED FOODaLEAFY GREENaMANGO"),
   (0x1F96E, "aMOON CAKEaBAGELaSMILING FACE WITH SMILING EYES AND THREE HEARTSaYAWNING FACE"),
   (0x1F972, "aSMILING FACE WITH TEARaFACE WITH PARTY HORN AND PARTY HAT"),
   (0x1F974, "cUNEVEN EYES AND WAVY MOUTHaOVERHEATED FACEaFREEZING FACEaNINJAaDISGUISED FACE"),
   (0x1F979, "aFACE HOLDING BACK TEARSbWITH PLEADING EYESaSARIaLAB COATaGOGGLESaHIKING BOOT"),
   (0x1F97F, "aFLAT SHOEaCRABaLION FACEaSCORPIONaTURKEYaUNICORN FACEaEAGLEaDUCKaBATaSHARK"),
   (0x1F989, "aOWLaFOX FACEaBUTTERFLYaDEERaGORILLAaLIZARDaRHINOCEROSaSHRIMPaSQUID"),
   (0x1F992, "aGIRAFFE FACEaZEBRA FACEaHEDGEHOGaSAUROPODaT-REXaCRICKETaKANGAROOaLLAMA"),
   (0x1F99A, "aPEACOCKaHIPPOPOTAMUSaPARROTaRACCOONaLOBSTERaMOSQUITOaMICROBEaBADGERaSWAN"),
   (0x1F9A3, "aMAMMOTHaDODOaSLOTHaOTTERaORANGUTANaSKUNKaFLAMINGOaOYSTERaBEAVERaBISONaSEAL"),
   (0x1F9AE, "aGUIDE DOGaPROBING CANEaEMOJI COMPONENT RED HAIRcCURLY HAIRcBALDcWHITE HAIR"),
   (0x1F9B4, "aBONEaLEGaFOOTaTOOTHaSUPERHEROaSUPERVILLAINaSAFETY VESTaEAR WITH HEARING AID"),
   (0x1F9BC, "aMOTORIZED WHEELCHAIRaMANUAL WHEELCHAIRaMECHANICAL ARMbLEGaCHEESE WEDGE"),
   (0x1F9C1, "aCUPCAKEaSALT SHAKERaBEVERAGE BOXaGARLICaONIONaFALAFELaWAFFLEaBUTTER"),
   (0x1F9C9, "aMATE DRINKaICE CUBEaBUBBLE TEAaTROLLaSTANDING PERSONaKNEELING PERSON"),
   (0x1F9CF, "aDEAF PERSONaFACE WITH MONOCLEaADULTaCHILDaOLDER ADULTaBEARDED PERSON"),
   (0x1F9D5, "aPERSON WITH HEADSCARFbIN STEAMY ROOMbCLIMBINGbIN LOTUS POSITIONaMAGEaFAIRY"),
   (0x1F9DB, "aVAMPIREaMERPERSONaELFaGENIEaZOMBIEaBRAINaORANGE HEARTaBILLED CAPaSCARFaGLOVES"),
   (0x1F9E5, "aCOATaSOCKSaRED GIFT ENVELOPEaFIRECRACKERaJIGSAW PUZZLE PIECEaTEST TUBE"),
   (0x1F9EB, "aPETRI DISHaDNA DOUBLE HELIXaCOMPASSaABACUSaFIRE EXTINGUISHERaTOOLBOXaBRICK"),
   (0x1F9F2, "aMAGNETaLUGGAGEaLOTION BOTTLEaSPOOL OF THREADaBALL OF YARNaSAFETY PIN"),
   (0x1F9F8, "aTEDDY BEARaBROOMaBASKETaROLL OF PAPERaBAR OF SOAPaSPONGEaRECEIPTaNAZAR AMULET"),
   (0x1FA00, "aNEUTRAL CHESS KINGcQUEENcROOKcBISHOPcKNIGHTcPAWN"),
   (0x1FA06, "aWHITE CHESS KNIGHT ROTATED FORTY-FIVE DEGREES"),
   (0x1FA07, "aBLACK CHESS KNIGHT ROTATED FORTY-FIVE DEGREES"),
   (0x1FA08, "aNEUTRAL CHESS KNIGHT ROTATED FORTY-FIVE DEGREES"),
   (0x1FA09, "aWHITE CHESS KING ROTATED NINETY DEGREEScQUEEN ROTATED NINETY DEGREES"),
   (0x1FA0B, "cROOK ROTATED NINETY DEGREEScBISHOP ROTATED NINETY DEGREES"),
   (0x1FA0D, "cKNIGHT ROTATED NINETY DEGREEScPAWN ROTATED NINETY DEGREES"),
   (0x1FA0F, "aBLACK CHESS KING ROTATED NINETY DEGREEScQUEEN ROTATED NINETY DEGREES"),
   (0x1FA11, "cROOK ROTATED NINETY DEGREEScBISHOP ROTATED NINETY DEGREES"),
   (0x1FA13, "cKNIGHT ROTATED NINETY DEGREEScPAWN ROTATED NINETY DEGREES"),
   (0x1FA15, "aNEUTRAL CHESS KING ROTATED NINETY DEGREEScQUEEN ROTATED NINETY DEGREES"),
   (0x1FA17, "cROOK ROTATED NINETY DEGREEScBISHOP ROTATED NINETY DEGREES"),
   (0x1FA19, "cKNIGHT ROTATED NINETY DEGREEScPAWN ROTATED NINETY DEGREES"),
   (0x1FA1B, "aWHITE CHESS KNIGHT ROTATED ONE HUNDRED THIRTY-FIVE DEGREES"),
   (0x1FA1C, "aBLACK CHESS KNIGHT ROTATED ONE HUNDRED THIRTY-FIVE DEGREES"),
   (0x1FA1D, "aNEUTRAL CHESS KNIGHT ROTATED ONE HUNDRED THIRTY-FIVE DEGREES"),
   (0x1FA1E, "aWHITE CHESS TURNED KINGdQUEENdROOKdBISHOPdKNIGHTdPAWNaBLACK CHESS TURNED KING"),
   (0x1FA25, "dQUEENdROOKdBISHOPdKNIGHTdPAWNaNEUTRAL CHESS TURNED KINGdQUEENdROOKdBISHOP"),
   (0x1FA2E, "dKNIGHTdPAWNaWHITE CHESS KNIGHT ROTATED TWO HUNDRED TWENTY-FIVE DEGREES"),
   (0x1FA31, "aBLACK CHESS KNIGHT ROTATED TWO HUNDRED TWENTY-FIVE DEGREES"),
   (0x1FA32, "aNEUTRAL CHESS KNIGHT ROTATED TWO HUNDRED TWENTY-FIVE DEGREES"),
   (0x1FA33, "aWHITE CHESS KING ROTATED TWO HUNDRED SEVENTY DEGREES"),
   (0x1FA34, "cQUEEN ROTATED TWO HUNDRED SEVENTY DEGREES"),
   (0x1FA35, "cROOK ROTATED TWO HUNDRED SEVENTY DEGREES"),
   (0x1FA36, "cBISHOP ROTATED TWO HUNDRED SEVENTY DEGREES"),
   (0x1FA37, "cKNIGHT ROTATED TWO HUNDRED SEVENTY DEGREES"),
   (0x1FA38, "cPAWN ROTATED TWO HUNDRED SEVENTY DEGREES"),
   (0x1FA39, "aBLACK CHESS KING ROTATED TWO HUNDRED SEVENTY DEGREES"),
   (0x1FA3A, "cQUEEN ROTATED TWO HUNDRED SEVENTY DEGREES"),
   (0x1FA3B, "cROOK ROTATED TWO HUNDRED SEVENTY DEGREES"),
   (0x1FA3C, "cBISHOP ROTATED TWO HUNDRED SEVENTY DEGREES"),
   (0x1FA3D, "cKNIGHT ROTATED TWO HUNDRED SEVENTY DEGREES"),
   (0x1FA3E, "cPAWN ROTATED TWO HUNDRED SEVENTY DEGREES"),
   (0x1FA3F, "aNEUTRAL CHESS KING ROTATED TWO HUNDRED SEVENTY DEGREES"),
   (0x1FA40, "cQUEEN ROTATED TWO HUNDRED SEVENTY DEGREES"),
   (0x1FA41, "cROOK ROTATED TWO HUNDRED SEVENTY DEGREES"),
   (0x1FA42, "cBISHOP ROTATED TWO HUNDRED SEVENTY DEGREES"),
   (0x1FA43, "cKNIGHT ROTATED TWO HUNDRED SEVENTY DEGREES"),
   (0x1FA44, "cPAWN ROTATED TWO HUNDRED SEVENTY DEGREES"),
   (0x1FA45, "aWHITE CHESS KNIGHT ROTATED THREE HUNDRED FIFTEEN DEGREES"),
   (0x1FA46, "aBLACK CHESS KNIGHT ROTATED THREE HUNDRED FIFTEEN DEGREES"),
   (0x1FA47, "aNEUTRAL CHESS KNIGHT ROTATED THREE HUNDRED FIFTEEN DEGREES"),
   (0x1FA48, "aWHITE CHESS EQUIHOPPERaBLACK CHESS EQUIHOPPERaNEUTRAL CHESS EQUIHOPPER"),
   (0x1FA4B, "aWHITE CHESS EQUIHOPPER ROTATED NINETY DEGREES"),
   (0x1FA4C, "aBLACK CHESS EQUIHOPPER ROTATED NINETY DEGREES"),
   (0x1FA4D, "aNEUTRAL CHESS EQUIHOPPER ROTATED NINETY DEGREESaWHITE CHESS KNIGHT-QUEENdROOK"),
   (0x1FA50, "dBISHOPaBLACK CHESS KNIGHT-QUEENdROOKdBISHOP"),
   (0x1FA60, "aXIANGQI RED GENERALcMANDARINcELEPHANTcHORSEcCHARIOTcCANNONcSOLDIER"),
   (0x1FA67, "bBLACK GENERALcMANDARINcELEPHANTcHORSEcCHARIOTcCANNONcSOLDIER"),
   (0x1FA70, "aBALLET SHOESaONE-PIECE SWIMSUITaBRIEFSaSHORTSaTHONG SANDAL"),
   (0x1FA78, "aDROP OF BLOODaADHESIVE BANDAGEaSTETHOSCOPEaX-RAYaCRUTCH"),
   (0x1FA80, "aYO-YOaKITEaPARACHUTEaBOOMERANGaMAGIC WANDaPINATAaNESTING DOLLS"),
   (0x1FA90, "aRINGED PLANETaCHAIRaRAZORaAXEaDIYA LAMPaBANJOaMILITARY HELMETaACCORDION"),
   (0x1FA98, "aLONG DRUMaCOINaCARPENTRY SAWaSCREWDRIVERaLADDERaHOOKaMIRRORaWINDOWaPLUNGER"),
   (0x1FAA1, "aSEWING NEEDLEaKNOTaBUCKETaMOUSE TRAPaTOOTHBRUSHaHEADSTONEaPLACARDaROCK"),
   (0x1FAA9, "aMIRROR BALLaIDENTIFICATION CARDaLOW BATTERYaHAMSA"),
   (0x1FAB0, "aFLYaWORMaBEETLEaCOCKROACHaPOTTED PLANTaWOODaFEATHERaLOTUSaCORALaEMPTY NEST"),
   (0x1FABA, "aNEST WITH EGGS"),
   (0x1FAC0, "aANATOMICAL HEARTaLUNGSaPEOPLE HUGGINGaPREGNANT MANbPERSONaPERSON WITH CROWN"),
   (0x1FAD0, "aBLUEBERRIESaBELL PEPPERaOLIVEaFLATBREADaTAMALEaFONDUEaTEAPOTaPOURING LIQUID"),
   (0x1FAD8, "aBEANSaJAR"),
   (0x1FAE0, "aMELTING FACEaSALUTING FACEaFACE WITH OPEN EYES AND HAND OVER MOUTH"),
   (0x1FAE3, "cPEEKING EYEcDIAGONAL MOUTHaDOTTED LINE FACEaBITING LIPaBUBBLES"),
   (0x1FAF0, "aHAND WITH INDEX FINGER AND THUMB CROSSEDaRIGHTWARDS HANDaLEFTWARDS HAND"),
   (0x1FAF3, "aPALM DOWN HANDbUP HANDaINDEX POINTING AT THE VIEWERaHEART HANDS"),
   (0x1FB00, "aBLOCK SEXTANT-1c2c12c3c13c23c123c4c14c24c124c34c134c234c1234c5c15c25c125c35"),
   (0x1FB14, "c235c1235c45c145c245c1245c345c1345c2345c12345c6c16c26c126c36c136c236c1236c46"),
   (0x1FB27, "c146c1246c346c1346c2346c12346c56c156c256c1256c356c1356c2356c12356c456c1456"),
   (0x1FB37, "c2456c12456c3456c13456c23456"),
   (0x1FB3C, "aLOWER LEFT BLOCK DIAGONAL LOWER MIDDLE LEFT TO LOWER CENTREjRIGHT"),
   (0x1FB3E, "eUPPER MIDDLE LEFT TO LOWER CENTREjRIGHTfLEFT TO LOWER CENTRE"),
   (0x1FB41, "bRIGHT BLOCK DIAGONAL UPPER MIDDLE LEFT TO UPPER CENTREjRIGHT"),
   (0x1FB43, "eLOWER MIDDLE LEFT TO UPPER CENTREjRIGHTfLEFT TO UPPER CENTRE"),
   (0x1FB46, "fMIDDLE LEFT TO UPPER MIDDLE RIGHTfCENTRE TO LOWER MIDDLE RIGHT"),
   (0x1FB48, "fLEFT TO LOWER MIDDLE RIGHTfCENTRE TO UPPER MIDDLE RIGHT"),
   (0x1FB4A, "fLEFT TO UPPER MIDDLE RIGHTfCENTRE TO UPPER RIGHT"),
   (0x1FB4C, "bLEFT BLOCK DIAGONAL UPPER CENTRE TO UPPER MIDDLE RIGHT"),
   (0x1FB4D, "fLEFT TO UPPER MIDDLE RIGHTfCENTRE TO LOWER MIDDLE RIGHT"),
   (0x1FB4F, "fLEFT TO LOWER MIDDLE RIGHTfCENTRE TO LOWER RIGHT"),
   (0x1FB51, "fMIDDLE LEFT TO LOWER MIDDLE RIGHT"),
   (0x1FB52, "aUPPER RIGHT BLOCK DIAGONAL LOWER MIDDLE LEFT TO LOWER CENTREjRIGHT"),
   (0x1FB54, "eUPPER MIDDLE LEFT TO LOWER CENTREjRIGHTfLEFT TO LOWER CENTRE"),
   (0x1FB57, "bLEFT BLOCK DIAGONAL UPPER MIDDLE LEFT TO UPPER CENTREjRIGHT"),
   (0x1FB59, "eLOWER MIDDLE LEFT TO UPPER CENTREjRIGHTfLEFT TO UPPER CENTRE"),
   (0x1FB5C, "fMIDDLE LEFT TO UPPER MIDDLE RIGHTfCENTRE TO LOWER MIDDLE RIGHT"),
   (0x1FB5E, "fLEFT TO LOWER MIDDLE RIGHTfCENTRE TO UPPER MIDDLE RIGHT"),
   (0x1FB60, "fLEFT TO UPPER MIDDLE RIGHTfCENTRE TO UPPER RIGHT"),
   (0x1FB62, "bRIGHT BLOCK DIAGONAL UPPER CENTRE TO UPPER MIDDLE RIGHT"),
   (0x1FB63, "fLEFT TO UPPER MIDDLE RIGHTfCENTRE TO LOWER MIDDLE RIGHT"),
   (0x1FB65, "fLEFT TO LOWER MIDDLE RIGHTfCENTRE TO LOWER RIGHT"),
   (0x1FB67, "fMIDDLE LEFT TO LOWER MIDDLE RIGHT"),
   (0x1FB68, "bAND RIGHT AND LOWER TRIANGULAR THREE QUARTERS BLOCK"),
   (0x1FB69, "aLEFT AND LOWER AND RIGHT TRIANGULAR THREE QUARTERS BLOCK"),
   (0x1FB6A, "aUPPER AND LEFT AND LOWER TRIANGULAR THREE QUARTERS BLOCK"),
   (0x1FB6B, "aLEFT AND UPPER AND RIGHT TRIANGULAR THREE QUARTERS BLOCK"),
   (0x1FB6C, "bTRIANGULAR ONE QUARTER BLOCKaUPPER TRIANGULAR ONE QUARTER BLOCK"),
   (0x1FB6E, "aRIGHT TRIANGULAR ONE QUARTER BLOCKaLOWER TRIANGULAR ONE QUARTER BLOCK"),
   (0x1FB70, "aVERTICAL ONE EIGHTH BLOCK-2e3e4e5e6e7aHORIZONTAL ONE EIGHTH BLOCK-2e3e4e5e6e7"),
   (0x1FB7C, "aLEFT AND LOWER ONE EIGHTH BLOCKcUPPER ONE EIGHTH BLOCK"),
   (0x1FB7E, "aRIGHT AND UPPER ONE EIGHTH BLOCKcLOWER ONE EIGHTH BLOCK"),
   (0x1FB80, "aUPPER AND LOWER ONE EIGHTH BLOCKaHORIZONTAL ONE EIGHTH BLOCK-1358"),
   (0x1FB82, "aUPPER ONE QUARTER BLOCKbTHREE EIGHTHS BLOCKbFIVE EIGHTHS BLOCK"),
   (0x1FB85, "bTHREE QUARTERS BLOCKbSEVEN EIGHTHS BLOCKaRIGHT ONE QUARTER BLOCK"),
   (0x1FB88, "bTHREE EIGHTHS BLOCKbFIVE EIGHTHS BLOCKbTHREE QUARTERS BLOCK"),
   (0x1FB8B, "bSEVEN EIGHTHS BLOCKaLEFT HALF MEDIUM SHADEaRIGHT HALF MEDIUM SHADE"),
   (0x1FB8E, "aUPPER HALF MEDIUM SHADEaLOWER HALF MEDIUM SHADEaINVERSE MEDIUM SHADE"),
   (0x1FB91, "aUPPER HALF BLOCK AND LOWER HALF INVERSE MEDIUM SHADE"),
   (0x1FB92, "cINVERSE MEDIUM SHADE AND LOWER HALF BLOCK"),
   (0x1FB94, "aLEFT HALF INVERSE MEDIUM SHADE AND RIGHT HALF BLOCKaCHECKER BOARD FILL"),
   (0x1FB96, "aINVERSE CHECKER BOARD FILLaHEAVY HORIZONTAL FILL"),
   (0x1FB98, "aUPPER LEFT TO LOWER RIGHT FILLbRIGHT TO LOWER LEFT FILL"),
   (0x1FB9A, "bAND LOWER TRIANGULAR HALF BLOCKaLEFT AND RIGHT TRIANGULAR HALF BLOCK"),
   (0x1FB9C, "aUPPER LEFT TRIANGULAR MEDIUM SHADEbRIGHT TRIANGULAR MEDIUM SHADE"),
   (0x1FB9E, "aLOWER RIGHT TRIANGULAR MEDIUM SHADEbLEFT TRIANGULAR MEDIUM SHADE"),
   (0x1FBA0, "aBOX DRAWINGS LIGHT DIAGONAL UPPER CENTRE TO MIDDLE LEFTiRIGHT"),
   (0x1FBA2, "eMIDDLE LEFT TO LOWER CENTREfRIGHT TO LOWER CENTRE"),
   (0x1FBA4, "eUPPER CENTRE TO MIDDLE LEFT TO LOWER CENTREiRIGHT TO LOWER CENTRE"),
   (0x1FBA6, "eMIDDLE LEFT TO LOWER CENTRE TO MIDDLE RIGHThUPPER CENTRE TO MIDDLE RIGHT"),
   (0x1FBA8, "eUPPER CENTRE TO MIDDLE LEFT AND MIDDLE RIGHT TO LOWER CENTRE"),
   (0x1FBA9, "iRIGHT AND MIDDLE LEFT TO LOWER CENTREjTO LOWER CENTRE TO MIDDLE LEFT"),
   (0x1FBAB, "iLEFT TO LOWER CENTRE TO MIDDLE RIGHT"),
   (0x1FBAC, "eMIDDLE LEFT TO UPPER CENTRE TO MIDDLE RIGHT TO LOWER CENTRE"),
   (0x1FBAD, "fRIGHT TO UPPER CENTRE TO MIDDLE LEFT TO LOWER CENTREeDIAMOND"),
   (0x1FBAF, "dHORIZONTAL WITH VERTICAL STROKEaARROWHEAD-SHAPED POINTERaINVERSE CHECK MARK"),
   (0x1FBB2, "aLEFT HALF RUNNING MANaRIGHT HALF RUNNING MAN"),
   (0x1FBB4, "aINVERSE DOWNWARDS ARROW WITH TIP LEFTWARDS"),
   (0x1FBB5, "aLEFTWARDS ARROW AND UPPER AND LOWER ONE EIGHTH BLOCK"),
   (0x1FBB6, "aRIGHTWARDS ARROW AND UPPER AND LOWER ONE EIGHTH BLOCK"),
   (0x1FBB7, "aDOWNWARDS ARROW AND RIGHT ONE EIGHTH BLOCK"),
   (0x1FBB8, "aUPWARDS ARROW AND RIGHT ONE EIGHTH BLOCKaLEFT HALF FOLDERaRIGHT HALF FOLDER"),
   (0x1FBBB, "aVOIDED GREEK CROSSaRIGHT OPEN SQUARED DOTaNEGATIVE DIAGONAL CROSS"),
   (0x1FBBE, "cMIDDLE RIGHT TO LOWER CENTREcDIAMONDaWHITE HEAVY SALTIRE WITH ROUNDED CORNERS"),
   (0x1FBC1, "aLEFT THIRD WHITE RIGHT POINTING INDEXaMIDDLE THIRD WHITE RIGHT POINTING INDEX"),
   (0x1FBC3, "aRIGHT THIRD WHITE RIGHT POINTING INDEXaNEGATIVE SQUARED QUESTION MARK"),
   (0x1FBC5, "aSTICK FIGUREbFIGURE WITH ARMS RAISEDcLEANING LEFTdRIGHTcWITH DRESS"),
   (0x1FBCA, "aWHITE UP-POINTING CHEVRON"),
   (0x1FBF0, "aSEGMENTED DIGIT ZEROcONEcTWOcTHREEcFOURcFIVEcSIXcSEVENcEIGHTcNINE"),
   (0x2F800, "aCJK COMPATIBILITY IDEOGRAPH-2F800d2F801d2F802d2F803d2F804d2F805d2F806d2F807"),
   (0x2F808, "d2F808d2F809d2F80Ad2F80Bd2F80Cd2F80Dd2F80Ed2F80Fd2F810d2F811d2F812d2F813d2F814"),
   (0x2F815, "d2F815d2F816d2F817d2F818d2F819d2F81Ad2F81Bd2F81Cd2F81Dd2F81Ed2F81Fd2F820d2F821"),
   (0x2F822, "d2F822d2F823d2F824d2F825d2F826d2F827d2F828d2F829d2F82Ad2F82Bd2F82Cd2F82Dd2F82E"),
   (0x2F82F, "d2F82Fd2F830d2F831d2F832d2F833d2F834d2F835d2F836d2F837d2F838d2F839d2F83Ad2F83B"),
   (0x2F83C, "d2F83Cd2F83Dd2F83Ed2F83Fd2F840d2F841d2F842d2F843d2F844d2F845d2F846d2F847d2F848"),
   (0x2F849, "d2F849d2F84Ad2F84Bd2F84Cd2F84Dd2F84Ed2F84Fd2F850d2F851d2F852d2F853d2F854d2F855"),
   (0x2F856, "d2F856d2F857d2F858d2F859d2F85Ad2F85Bd2F85Cd2F85Dd2F85Ed2F85Fd2F860d2F861d2F862"),
   (0x2F863, "d2F863d2F864d2F865d2F866d2F867d2F868d2F869d2F86Ad2F86Bd2F86Cd2F86Dd2F86Ed2F86F"),
   (0x2F870, "d2F870d2F871d2F872d2F873d2F874d2F875d2F876d2F877d2F878d2F879d2F87Ad2F87Bd2F87C"),
   (0x2F87D, "d2F87Dd2F87Ed2F87Fd2F880d2F881d2F882d2F883d2F884d2F885d2F886d2F887d2F888d2F889"),
   (0x2F88A, "d2F88Ad2F88Bd2F88Cd2F88Dd2F88Ed2F88Fd2F890d2F891d2F892d2F893d2F894d2F895d2F896"),
   (0x2F897, "d2F897d2F898d2F899d2F89Ad2F89Bd2F89Cd2F89Dd2F89Ed2F89Fd2F8A0d2F8A1d2F8A2d2F8A3"),
   (0x2F8A4, "d2F8A4d2F8A5d2F8A6d2F8A7d2F8A8d2F8A9d2F8AAd2F8ABd2F8ACd2F8ADd2F8AEd2F8AFd2F8B0"),
   (0x2F8B1, "d2F8B1d2F8B2d2F8B3d2F8B4d2F8B5d2F8B6d2F8B7d2F8B8d2F8B9d2F8BAd2F8BBd2F8BCd2F8BD"),
   (0x2F8BE, "d2F8BEd2F8BFd2F8C0d2F8C1d2F8C2d2F8C3d2F8C4d2F8C5d2F8C6d2F8C7d2F8C8d2F8C9d2F8CA"),
   (0x2F8CB, "d2F8CBd2F8CCd2F8CDd2F8CEd2F8CFd2F8D0d2F8D1d2F8D2d2F8D3d2F8D4d2F8D5d2F8D6d2F8D7"),
   (0x2F8D8, "d2F8D8d2F8D9d2F8DAd2F8DBd2F8DCd2F8DDd2F8DEd2F8DFd2F8E0d2F8E1d2F8E2d2F8E3d2F8E4"),
   (0x2F8E5, "d2F8E5d2F8E6d2F8E7d2F8E8d2F8E9d2F8EAd2F8EBd2F8ECd2F8EDd2F8EEd2F8EFd2F8F0d2F8F1"),
   (0x2F8F2, "d2F8F2d2F8F3d2F8F4d2F8F5d2F8F6d2F8F7d2F8F8d2F8F9d2F8FAd2F8FBd2F8FCd2F8FDd2F8FE"),
   (0x2F8FF, "d2F8FFd2F900d2F901d2F902d2F903d2F904d2F905d2F906d2F907d2F908d2F909d2F90Ad2F90B"),
   (0x2F90C, "d2F90Cd2F90Dd2F90Ed2F90Fd2F910d2F911d2F912d2F913d2F914d2F915d2F916d2F917d2F918"),
   (0x2F919, "d2F919d2F91Ad2F91Bd2F91Cd2F91Dd2F91Ed2F91Fd2F920d2F921d2F922d2F923d2F924d2F925"),
   (0x2F926, "d2F926d2F927d2F928d2F929d2F92Ad2F92Bd2F92Cd2F92Dd2F92Ed2F92Fd2F930d2F931d2F932"),
   (0x2F933, "d2F933d2F934d2F935d2F936d2F937d2F938d2F939d2F93Ad2F93Bd2F93Cd2F93Dd2F93Ed2F93F"),
   (0x2F940, "d2F940d2F941d2F942d2F943d2F944d2F945d2F946d2F947d2F948d2F949d2F94Ad2F94Bd2F94C"),
   (0x2F94D, "d2F94Dd2F94Ed2F94Fd2F950d2F951d2F952d2F953d2F954d2F955d2F956d2F957d2F958d2F959"),
   (0x2F95A, "d2F95Ad2F95Bd2F95Cd2F95Dd2F95Ed2F95Fd2F960d2F961d2F962d2F963d2F964d2F965d2F966"),
   (0x2F967, "d2F967d2F968d2F969d2F96Ad2F96Bd2F96Cd2F96Dd2F96Ed2F96Fd2F970d2F971d2F972d2F973"),
   (0x2F974, "d2F974d2F975d2F976d2F977d2F978d2F979d2F97Ad2F97Bd2F97Cd2F97Dd2F97Ed2F97Fd2F980"),
   (0x2F981, "d2F981d2F982d2F983d2F984d2F985d2F986d2F987d2F988d2F989d2F98Ad2F98Bd2F98Cd2F98D"),
   (0x2F98E, "d2F98Ed2F98Fd2F990d2F991d2F992d2F993d2F994d2F995d2F996d2F997d2F998d2F999d2F99A"),
   (0x2F99B, "d2F99Bd2F99Cd2F99Dd2F99Ed2F99Fd2F9A0d2F9A1d2F9A2d2F9A3d2F9A4d2F9A5d2F9A6d2F9A7"),
   (0x2F9A8, "d2F9A8d2F9A9d2F9AAd2F9ABd2F9ACd2F9ADd2F9AEd2F9AFd2F9B0d2F9B1d2F9B2d2F9B3d2F9B4"),
   (0x2F9B5, "d2F9B5d2F9B6d2F9B7d2F9B8d2F9B9d2F9BAd2F9BBd2F9BCd2F9BDd2F9BEd2F9BFd2F9C0d2F9C1"),
   (0x2F9C2, "d2F9C2d2F9C3d2F9C4d2F9C5d2F9C6d2F9C7d2F9C8d2F9C9d2F9CAd2F9CBd2F9CCd2F9CDd2F9CE"),
   (0x2F9CF, "d2F9CFd2F9D0d2F9D1d2F9D2d2F9D3d2F9D4d2F9D5d2F9D6d2F9D7d2F9D8d2F9D9d2F9DAd2F9DB"),
   (0x2F9DC, "d2F9DCd2F9DDd2F9DEd2F9DFd2F9E0d2F9E1d2F9E2d2F9E3d2F9E4d2F9E5d2F9E6d2F9E7d2F9E8"),
   (0x2F9E9, "d2F9E9d2F9EAd2F9EBd2F9ECd2F9EDd2F9EEd2F9EFd2F9F0d2F9F1d2F9F2d2F9F3d2F9F4d2F9F5"),
   (0x2F9F6, "d2F9F6d2F9F7d2F9F8d2F9F9d2F9FAd2F9FBd2F9FCd2F9FDd2F9FEd2F9FFd2FA00d2FA01d2FA02"),
   (0x2FA03, "d2FA03d2FA04d2FA05d2FA06d2FA07d2FA08d2FA09d2FA0Ad2FA0Bd2FA0Cd2FA0Dd2FA0Ed2FA0F"),
   (0x2FA10, "d2FA10d2FA11d2FA12d2FA13d2FA14d2FA15d2FA16d2FA17d2FA18d2FA19d2FA1Ad2FA1Bd2FA1C"),
   (0x2FA1D, "d2FA1D"),
   (0xE0001, "aLANGUAGE TAG"),
   (0xE0020, "aTAG SPACEbEXCLAMATION MARKbQUOTATION MARKbNUMBER SIGNbDOLLAR SIGN"),
   (0xE0025, "bPERCENT SIGNbAMPERSANDbAPOSTROPHEbLEFT PARENTHESISbRIGHT PARENTHESISbASTERISK"),
   (0xE002B, "bPLUS SIGNbCOMMAbHYPHEN-MINUSbFULL STOPbSOLIDUSbDIGIT ZEROcONEcTWOcTHREEcFOUR"),
   (0xE0035, "cFIVEcSIXcSEVENcEIGHTcNINEbCOLONbSEMICOLONbLESS-THAN SIGNbEQUALS SIGN"),
   (0xE003E, "bGREATER-THAN SIGNbQUESTION MARKbCOMMERCIAL ATbLATIN CAPITAL LETTER AeBeCeDeE"),
   (0xE0046, "eFeGeHeIeJeKeLeMeNeOePeQeReSeTeUeVeWeXeYeZbLEFT SQUARE BRACKETbREVERSE SOLIDUS"),
   (0xE005D, "bRIGHT SQUARE BRACKETbCIRCUMFLEX ACCENTbLOW LINEbGRAVE ACCENT"),
   (0xE0061, "bLATIN SMALL LETTER AeBeCeDeEeFeGeHeIeJeKeLeMeNeOePeQeReSeTeUeVeWeXeYeZ"),
   (0xE007B, "bLEFT CURLY BRACKETbVERTICAL LINEbRIGHT CURLY BRACKETbTILDEaCANCEL TAG"),
   (0xE0100, "aVARIATION SELECTOR-17c18c19c20c21c22c23c24c25c26c27c28c29c30c31c32c33c34c35"),
   (0xE0113, "c36c37c38c39c40c41c42c43c44c45c46c47c48c49c50c51c52c53c54c55c56c57c58c59c60c61"),
   (0xE012D, "c62c63c64c65c66c67c68c69c70c71c72c73c74c75c76c77c78c79c80c81c82c83c84c85c86c87"),
   (0xE0147, "c88c89c90c91c92c93c94c95c96c97c98c99c100c101c102c103c104c105c106c107c108c109"),
   (0xE015D, "c110c111c112c113c114c115c116c117c118c119c120c121c122c123c124c125c126c127c128"),
   (0xE0170, "c129c130c131c132c133c134c135c136c137c138c139c140c141c142c143c144c145c146c147"),
   (0xE0183, "c148c149c150c151c152c153c154c155c156c157c158c159c160c161c162c163c164c165c166"),
   (0xE0196, "c167c168c169c170c171c172c173c174c175c176c177c178c179c180c181c182c183c184c185"),
   (0xE01A9, "c186c187c188c189c190c191c192c193c194c195c196c197c198c199c200c201c202c203c204"),
   (0xE01BC, "c205c206c207c208c209c210c211c212c213c214c215c216c217c218c219c220c221c222c223"),
   (0xE01CF, "c224c225c226c227c228c229c230c231c232c233c234c235c236c237c238c239c240c241c242"),
   (0xE01E2, "c243c244c245c246c247c248c249c250c251c252c253c254c255c256")]

end RecordAudit.Text.CharacterName

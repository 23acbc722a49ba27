/-!
# Names of letters and signs from Myanmar to Greek with several marks

The characters from U+1000 to U+1FFF, but for Hangul syllables, which are named by a rule. Each line
gives the code point of its first name; the names of the characters after it follow, each behind a
small letter that tells how many words it shares with the name before it.
-/

namespace RecordAudit.Text.CharacterName

def modernScripts : List (Nat × String) :=
  [(0x1000, "aMYANMAR LETTER KAcKHAcGAcGHAcNGAcCAcCHAcJAcJHAcNYAcNNYAcTTAcTTHAcDDAcDDHAcNNA"),
   (0x1010, "cTAcTHAcDAcDHAcNAcPAcPHAcBAcBHAcMAcYAcRAcLAcWAcSAcHAcLLAcAcSHAN AcIcIIcUcUUcE"),
   (0x1028, "cMON EcOcAUbVOWEL SIGN TALL AAdAAdIdIIdUdUUdEdAIdMON IIeOdE ABOVE"),
   (0x1036, "bSIGN ANUSVARAcDOT BELOWcVISARGAcVIRAMAcASATbCONSONANT SIGN MEDIAL YAeRAeWAeHA"),
   (0x103F, "bLETTER GREAT SAbDIGIT ZEROcONEcTWOcTHREEcFOURcFIVEcSIXcSEVENcEIGHTcNINE"),
   (0x104A, "bSIGN LITTLE SECTIONcSECTIONbSYMBOL LOCATIVEcCOMPLETEDcAFOREMENTIONEDcGENITIVE"),
   (0x1050, "bLETTER SHAcSSAcVOCALIC RdRRdLdLLbVOWEL SIGN VOCALIC ReRReLeLLbLETTER MON NGA"),
   (0x105B, "dJHAdBBAdBBEbCONSONANT SIGN MON MEDIAL NAfMAfLAbLETTER SGAW KAREN SHA"),
   (0x1062, "bVOWEL SIGN SGAW KAREN EUbTONE MARK SGAW KAREN HATHIfKE PHO"),
   (0x1065, "bLETTER WESTERN PWO KAREN THAfPWAbVOWEL SIGN WESTERN PWO KAREN EUgUE"),
   (0x1069, "bSIGN WESTERN PWO KAREN TONE-1g2g3g4g5bLETTER EASTERN PWO KAREN NNAfYWAfGHWA"),
   (0x1071, "bVOWEL SIGN GEBA KAREN IdKAYAH OEeUeEEbLETTER SHAN KAdKHAdGAdCAdZAdNYAdDAdNA"),
   (0x107D, "dPHAdFAdBAdTHAdHAbCONSONANT SIGN SHAN MEDIAL WAbVOWEL SIGN SHAN AAeEeE ABOVE"),
   (0x1086, "eFINAL YbSIGN SHAN TONE-2e3e5e6dCOUNCIL TONE-2f3eEMPHATIC TONE"),
   (0x108E, "bLETTER RUMAI PALAUNG FAbSIGN RUMAI PALAUNG TONE-5bSHAN DIGIT ZEROdONEdTWO"),
   (0x1093, "dTHREEdFOURdFIVEdSIXdSEVENdEIGHTdNINEbSIGN KHAMTI TONE-1e3bVOWEL SIGN AITON A"),
   (0x109D, "eAIbSYMBOL SHAN ONEdEXCLAMATIONaGEORGIAN CAPITAL LETTER ANdBANdGANdDONdENdVIN"),
   (0x10A6, "dZENdTANdINdKANdLASdMANdNARdONdPARdZHARdRAEdSANdTARdUNdPHARdKHARdGHANdQARdSHIN"),
   (0x10B9, "dCHINdCANdJILdCILdCHARdXANdJHANdHAEdHEdHIEdWEdHARdHOE"),
   (0x10C7, "dYN"),
   (0x10CD, "dAEN"),
   (0x10D0, "bLETTER ANcBANcGANcDONcENcVINcZENcTANcINcKANcLAScMANcNARcONcPARcZHARcRAEcSAN"),
   (0x10E2, "cTARcUNcPHARcKHARcGHANcQARcSHINcCHINcCANcJILcCILcCHARcXANcJHANcHAEcHEcHIEcWE"),
   (0x10F4, "cHARcHOEcFIcYNcELIFIcTURNED GANcAINbPARAGRAPH SEPARATOR"),
   (0x10FC, "aMODIFIER LETTER GEORGIAN NARaGEORGIAN LETTER AENcHARD SIGNcLABIAL SIGN"),
   (0x1100, "aHANGUL CHOSEONG KIYEOKcSSANGKIYEOKcNIEUNcTIKEUTcSSANGTIKEUTcRIEULcMIEUMcPIEUP"),
   (0x1108, "cSSANGPIEUPcSIOScSSANGSIOScIEUNGcCIEUCcSSANGCIEUCcCHIEUCHcKHIEUKHcTHIEUTH"),
   (0x1111, "cPHIEUPHcHIEUHcNIEUN-KIYEOKcSSANGNIEUNcNIEUN-TIKEUTdPIEUPcTIKEUT-KIYEOK"),
   (0x1118, "cRIEUL-NIEUNcSSANGRIEULcRIEUL-HIEUHcKAPYEOUNRIEULcMIEUM-PIEUPcKAPYEOUNMIEUM"),
   (0x111E, "cPIEUP-KIYEOKdNIEUNdTIKEUTdSIOSdSIOS-KIYEOKeTIKEUTePIEUPdSSANGSIOSdSIOS-CIEUC"),
   (0x1127, "dCIEUCdCHIEUCHdTHIEUTHdPHIEUPHcKAPYEOUNPIEUPcKAPYEOUNSSANGPIEUPcSIOS-KIYEOK"),
   (0x112E, "dNIEUNdTIKEUTdRIEULdMIEUMdPIEUPdPIEUP-KIYEOKdSSANGSIOSdIEUNGdCIEUCdCHIEUCH"),
   (0x1138, "dKHIEUKHdTHIEUTHdPHIEUPHdHIEUHcCHITUEUMSIOScCHITUEUMSSANGSIOScCEONGCHIEUMSIOS"),
   (0x113F, "cCEONGCHIEUMSSANGSIOScPANSIOScIEUNG-KIYEOKdTIKEUTdMIEUMdPIEUPdSIOSdPANSIOS"),
   (0x1147, "cSSANGIEUNGcIEUNG-CIEUCdCHIEUCHdTHIEUTHdPHIEUPHcYESIEUNGcCIEUC-IEUNG"),
   (0x114E, "cCHITUEUMCIEUCcCHITUEUMSSANGCIEUCcCEONGCHIEUMCIEUCcCEONGCHIEUMSSANGCIEUC"),
   (0x1152, "cCHIEUCH-KHIEUKHdHIEUHcCHITUEUMCHIEUCHcCEONGCHIEUMCHIEUCHcPHIEUPH-PIEUP"),
   (0x1157, "cKAPYEOUNPHIEUPHcSSANGHIEUHcYEORINHIEUHcKIYEOK-TIKEUTcNIEUN-SIOSdCIEUCdHIEUH"),
   (0x115E, "cTIKEUT-RIEULcFILLERbJUNGSEONG FILLERcAcAEcYAcYAEcEOcEcYEOcYEcOcWAcWAEcOEcYOcU"),
   (0x116F, "cWEOcWEcWIcYUcEUcYIcIcA-OdUcYA-OdYOcEO-OdUdEUcYEO-OdUcO-EOdEdYEdOdUcYO-YAdYAE"),
   (0x1186, "dYEOdOdIcU-AdAEdEO-EUdYEdUcYU-AdEOdEdYEOdYEdUdIcEU-UdEUcYI-UcI-AdYAdOdUdEU"),
   (0x119D, "dARAEAcARAEAcARAEA-EOdUdIcSSANGARAEAcA-EUcYA-UcYEO-YAcO-YAdYAE"),
   (0x11A8, "bJONGSEONG KIYEOKcSSANGKIYEOKcKIYEOK-SIOScNIEUNcNIEUN-CIEUCdHIEUHcTIKEUTcRIEUL"),
   (0x11B0, "cRIEUL-KIYEOKdMIEUMdPIEUPdSIOSdTHIEUTHdPHIEUPHdHIEUHcMIEUMcPIEUPcPIEUP-SIOS"),
   (0x11BA, "cSIOScSSANGSIOScIEUNGcCIEUCcCHIEUCHcKHIEUKHcTHIEUTHcPHIEUPHcHIEUHcKIYEOK-RIEUL"),
   (0x11C4, "dSIOS-KIYEOKcNIEUN-KIYEOKdTIKEUTdSIOSdPANSIOSdTHIEUTHcTIKEUT-KIYEOKdRIEUL"),
   (0x11CC, "cRIEUL-KIYEOK-SIOSdNIEUNdTIKEUTdTIKEUT-HIEUHcSSANGRIEULcRIEUL-MIEUM-KIYEOK"),
   (0x11D2, "eSIOSdPIEUP-SIOSeHIEUHdKAPYEOUNPIEUPdSSANGSIOSdPANSIOSdKHIEUKHdYEORINHIEUH"),
   (0x11DA, "cMIEUM-KIYEOKdRIEULdPIEUPdSIOSdSSANGSIOSdPANSIOSdCHIEUCHdHIEUHcKAPYEOUNMIEUM"),
   (0x11E3, "cPIEUP-RIEULdPHIEUPHdHIEUHcKAPYEOUNPIEUPcSIOS-KIYEOKdTIKEUTdRIEULdPIEUP"),
   (0x11EB, "cPANSIOScIEUNG-KIYEOKdSSANGKIYEOKcSSANGIEUNGcIEUNG-KHIEUKHcYESIEUNG"),
   (0x11F1, "cYESIEUNG-SIOSdPANSIOScPHIEUPH-PIEUPcKAPYEOUNPHIEUPHcHIEUH-NIEUNdRIEULdMIEUM"),
   (0x11F8, "dPIEUPcYEORINHIEUHcKIYEOK-NIEUNdPIEUPdCHIEUCHdKHIEUKHdHIEUHcSSANGNIEUN"),
   (0x1200, "aETHIOPIC SYLLABLE HAcHUcHIcHAAcHEEcHEcHOcHOAcLAcLUcLIcLAAcLEEcLEcLOcLWAcHHA"),
   (0x1211, "cHHUcHHIcHHAAcHHEEcHHEcHHOcHHWAcMAcMUcMIcMAAcMEEcMEcMOcMWAcSZAcSZUcSZIcSZAA"),
   (0x1224, "cSZEEcSZEcSZOcSZWAcRAcRUcRIcRAAcREEcREcROcRWAcSAcSUcSIcSAAcSEEcSEcSOcSWAcSHA"),
   (0x1239, "cSHUcSHIcSHAAcSHEEcSHEcSHOcSHWAcQAcQUcQIcQAAcQEEcQEcQOcQOAcQWA"),
   (0x124A, "cQWIcQWAAcQWEEcQWE"),
   (0x1250, "cQHAcQHUcQHIcQHAAcQHEEcQHEcQHO"),
   (0x1258, "cQHWA"),
   (0x125A, "cQHWIcQHWAAcQHWEEcQHWE"),
   (0x1260, "cBAcBUcBIcBAAcBEEcBEcBOcBWAcVAcVUcVIcVAAcVEEcVEcVOcVWAcTAcTUcTIcTAAcTEEcTEcTO"),
   (0x1277, "cTWAcCAcCUcCIcCAAcCEEcCEcCOcCWAcXAcXUcXIcXAAcXEEcXEcXOcXOAcXWA"),
   (0x128A, "cXWIcXWAAcXWEEcXWE"),
   (0x1290, "cNAcNUcNIcNAAcNEEcNEcNOcNWAcNYAcNYUcNYIcNYAAcNYEEcNYEcNYOcNYWAcGLOTTAL AdUdI"),
   (0x12A3, "dAAdEEdEdOdWAcKAcKUcKIcKAAcKEEcKEcKOcKOAcKWA"),
   (0x12B2, "cKWIcKWAAcKWEEcKWE"),
   (0x12B8, "cKXAcKXUcKXIcKXAAcKXEEcKXEcKXO"),
   (0x12C0, "cKXWA"),
   (0x12C2, "cKXWIcKXWAAcKXWEEcKXWE"),
   (0x12C8, "cWAcWUcWIcWAAcWEEcWEcWOcWOAcPHARYNGEAL AdUdIdAAdEEdEdO"),
   (0x12D8, "cZAcZUcZIcZAAcZEEcZEcZOcZWAcZHAcZHUcZHIcZHAAcZHEEcZHEcZHOcZHWAcYAcYUcYIcYAA"),
   (0x12EC, "cYEEcYEcYOcYOAcDAcDUcDIcDAAcDEEcDEcDOcDWAcDDAcDDUcDDIcDDAAcDDEEcDDEcDDOcDDWA"),
   (0x1300, "cJAcJUcJIcJAAcJEEcJEcJOcJWAcGAcGUcGIcGAAcGEEcGEcGOcGOAcGWA"),
   (0x1312, "cGWIcGWAAcGWEEcGWE"),
   (0x1318, "cGGAcGGUcGGIcGGAAcGGEEcGGEcGGOcGGWAAcTHAcTHUcTHIcTHAAcTHEEcTHEcTHOcTHWAcCHA"),
   (0x1329, "cCHUcCHIcCHAAcCHEEcCHEcCHOcCHWAcPHAcPHUcPHIcPHAAcPHEEcPHEcPHOcPHWAcTSAcTSUcTSI"),
   (0x133B, "cTSAAcTSEEcTSEcTSOcTSWAcTZAcTZUcTZIcTZAAcTZEEcTZEcTZOcTZOAcFAcFUcFIcFAAcFEEcFE"),
   (0x134E, "cFOcFWAcPAcPUcPIcPAAcPEEcPEcPOcPWAcRYAcMYAcFYA"),
   (0x135D, "bCOMBINING GEMINATION AND VOWEL LENGTH MARKcVOWEL LENGTH MARKcGEMINATION MARK"),
   (0x1360, "bSECTION MARKbWORDSPACEbFULL STOPbCOMMAbSEMICOLONbCOLONbPREFACE COLON"),
   (0x1367, "bQUESTION MARKbPARAGRAPH SEPARATORbDIGIT ONEcTWOcTHREEcFOURcFIVEcSIXcSEVEN"),
   (0x1370, "cEIGHTcNINEbNUMBER TENcTWENTYcTHIRTYcFORTYcFIFTYcSIXTYcSEVENTYcEIGHTYcNINETY"),
   (0x137B, "cHUNDREDcTEN THOUSAND"),
   (0x1380, "bSYLLABLE SEBATBEIT MWAcMWIcMWEEcMWEcSEBATBEIT BWAcBWIcBWEEcBWEcSEBATBEIT FWA"),
   (0x1389, "cFWIcFWEEcFWEcSEBATBEIT PWAcPWIcPWEEcPWEbTONAL MARK YIZETdDERETdRIKRIK"),
   (0x1393, "dSHORT RIKRIKdDIFATdKENATdCHIRETdHIDETdDERET-HIDETdKURT"),
   (0x13A0, "aCHEROKEE LETTER AcEcIcOcUcVcGAcKAcGEcGIcGOcGUcGVcHAcHEcHIcHOcHUcHVcLAcLEcLI"),
   (0x13B6, "cLOcLUcLVcMAcMEcMIcMOcMUcNAcHNAcNAHcNEcNIcNOcNUcNVcQUAcQUEcQUIcQUOcQUUcQUVcSA"),
   (0x13CD, "cScSEcSIcSOcSUcSVcDAcTAcDEcTEcDIcTIcDOcDUcDVcDLAcTLAcTLEcTLIcTLOcTLUcTLVcTSA"),
   (0x13E4, "cTSEcTSIcTSOcTSUcTSVcWAcWEcWIcWOcWUcWVcYAcYEcYIcYOcYUcYVcMV"),
   (0x13F8, "bSMALL LETTER YEdYIdYOdYUdYVdMV"),
   (0x1400, "aCANADIAN SYLLABICS HYPHENcEcAAIcIcIIcOcOOcY-CREE OOcCARRIER EEdIcAcAAcWE"),
   (0x140D, "cWEST-CREE WEcWIcWEST-CREE WIcWIIcWEST-CREE WIIcWOcWEST-CREE WOcWOO"),
   (0x1415, "cWEST-CREE WOOcNASKAPI WOOcWAcWEST-CREE WAcWAAcWEST-CREE WAAcNASKAPI WAAcAI"),
   (0x141D, "cY-CREE WcGLOTTAL STOPcFINAL ACUTEdGRAVEdBOTTOM HALF RINGdTOP HALF RING"),
   (0x1423, "dRIGHT HALF RINGdRINGdDOUBLE ACUTEeSHORT VERTICAL STROKESdMIDDLE DOT"),
   (0x1428, "dSHORT HORIZONTAL STROKEdPLUSdDOWN TACKcENcINcONcANcPEcPAAIcPIcPIIcPOcPOO"),
   (0x1435, "cY-CREE POOcCARRIER HEEdHIcPAcPAAcPWEcWEST-CREE PWEcPWIcWEST-CREE PWIcPWII"),
   (0x143F, "cWEST-CREE PWIIcPWOcWEST-CREE PWOcPWOOcWEST-CREE PWOOcPWAcWEST-CREE PWAcPWAA"),
   (0x1447, "cWEST-CREE PWAAcY-CREE PWAAcPcWEST-CREE PcCARRIER HcTEcTAAIcTIcTIIcTOcTOO"),
   (0x1452, "cY-CREE TOOcCARRIER DEEdDIcTAcTAAcTWEcWEST-CREE TWEcTWIcWEST-CREE TWIcTWII"),
   (0x145C, "cWEST-CREE TWIIcTWOcWEST-CREE TWOcTWOOcWEST-CREE TWOOcTWAcWEST-CREE TWAcTWAA"),
   (0x1464, "cWEST-CREE TWAAcNASKAPI TWAAcTcTTEcTTIcTTOcTTAcKEcKAAIcKIcKIIcKOcKOO"),
   (0x1471, "cY-CREE KOOcKAcKAAcKWEcWEST-CREE KWEcKWIcWEST-CREE KWIcKWIIcWEST-CREE KWIIcKWO"),
   (0x147B, "cWEST-CREE KWOcKWOOcWEST-CREE KWOOcKWAcWEST-CREE KWAcKWAAcWEST-CREE KWAA"),
   (0x1482, "cNASKAPI KWAAcKcKWcSOUTH-SLAVEY KEHeKIHeKOHeKAHcCEcCAAIcCIcCIIcCOcCOO"),
   (0x148F, "cY-CREE COOcCAcCAAcCWEcWEST-CREE CWEcCWIcWEST-CREE CWIcCWIIcWEST-CREE CWIIcCWO"),
   (0x1499, "cWEST-CREE CWOcCWOOcWEST-CREE CWOOcCWAcWEST-CREE CWAcCWAAcWEST-CREE CWAA"),
   (0x14A0, "cNASKAPI CWAAcCcSAYISI THcMEcMAAIcMIcMIIcMOcMOOcY-CREE MOOcMAcMAAcMWE"),
   (0x14AD, "cWEST-CREE MWEcMWIcWEST-CREE MWIcMWIIcWEST-CREE MWIIcMWOcWEST-CREE MWOcMWOO"),
   (0x14B5, "cWEST-CREE MWOOcMWAcWEST-CREE MWAcMWAAcWEST-CREE MWAAcNASKAPI MWAAcM"),
   (0x14BC, "cWEST-CREE McMHcATHAPASCAN McSAYISI McNEcNAAIcNIcNIIcNOcNOOcY-CREE NOOcNAcNAA"),
   (0x14C9, "cNWEcWEST-CREE NWEcNWAcWEST-CREE NWAcNWAAcWEST-CREE NWAAcNASKAPI NWAAcN"),
   (0x14D1, "cCARRIER NGcNHcLEcLAAIcLIcLIIcLOcLOOcY-CREE LOOcLAcLAAcLWEcWEST-CREE LWEcLWI"),
   (0x14DF, "cWEST-CREE LWIcLWIIcWEST-CREE LWIIcLWOcWEST-CREE LWOcLWOOcWEST-CREE LWOOcLWA"),
   (0x14E7, "cWEST-CREE LWAcLWAAcWEST-CREE LWAAcLcWEST-CREE LcMEDIAL LcSEcSAAIcSIcSIIcSO"),
   (0x14F2, "cSOOcY-CREE SOOcSAcSAAcSWEcWEST-CREE SWEcSWIcWEST-CREE SWIcSWIIcWEST-CREE SWII"),
   (0x14FC, "cSWOcWEST-CREE SWOcSWOOcWEST-CREE SWOOcSWAcWEST-CREE SWAcSWAAcWEST-CREE SWAA"),
   (0x1504, "cNASKAPI SWAAcScATHAPASCAN ScSWcBLACKFOOT ScMOOSE-CREE SKcNASKAPI SKWdS-WdSPWA"),
   (0x150D, "dSTWAdSKWAdSCWAcSHEcSHIcSHIIcSHOcSHOOcSHAcSHAAcSHWEcWEST-CREE SHWEcSHWI"),
   (0x151A, "cWEST-CREE SHWIcSHWIIcWEST-CREE SHWIIcSHWOcWEST-CREE SHWOcSHWOO"),
   (0x1520, "cWEST-CREE SHWOOcSHWAcWEST-CREE SHWAcSHWAAcWEST-CREE SHWAAcSHcYEcYAAIcYIcYII"),
   (0x152A, "cYOcYOOcY-CREE YOOcYAcYAAcYWEcWEST-CREE YWEcYWIcWEST-CREE YWIcYWII"),
   (0x1534, "cWEST-CREE YWIIcYWOcWEST-CREE YWOcYWOOcWEST-CREE YWOOcYWAcWEST-CREE YWAcYWAA"),
   (0x153C, "cWEST-CREE YWAAcNASKAPI YWAAcYcBIBLE-CREE YcWEST-CREE YcSAYISI YIcREcR-CREE RE"),
   (0x1544, "cWEST-CREE LEcRAAIcRIcRIIcROcROOcWEST-CREE LOcRAcRAAcWEST-CREE LAcRWAA"),
   (0x154F, "cWEST-CREE RWAAcRcWEST-CREE RcMEDIAL RcFEcFAAIcFIcFIIcFOcFOOcFAcFAAcFWAA"),
   (0x155C, "cWEST-CREE FWAAcFcTHEcN-CREE THEcTHIcN-CREE THIcTHIIcN-CREE THIIcTHOcTHOOcTHA"),
   (0x1567, "cTHAAcTHWAAcWEST-CREE THWAAcTHcTTHEcTTHIcTTHOcTTHAcTTHcTYEcTYIcTYOcTYA"),
   (0x1574, "cNUNAVIK HEdHIdHIIdHOdHOOdHAdHAAdHcNUNAVUT HcHKcQAAIcQIcQIIcQOcQOOcQAcQAAcQ"),
   (0x1586, "cTLHEcTLHIcTLHOcTLHAcWEST-CREE REeRIeROeRAcNGAAIcNGIcNGIIcNGOcNGOOcNGAcNGAAcNG"),
   (0x1596, "cNNGcSAYISI SHEdSHIdSHOdSHAcWOODS-CREE THEeTHIeTHOeTHAeTHcLHIcLHIIcLHOcLHOO"),
   (0x15A4, "cLHAcLHAAcLHcTH-CREE THEeTHIeTHIIeTHOeTHOOeTHAeTHAAeTHcAIVILIK BcBLACKFOOT EdI"),
   (0x15B2, "dOdAdWEdWIdWOdWAdNEdNIdNOdNAdKEdKIdKOdKAcSAYISI HEdHIdHOdHAcCARRIER GHUdGHO"),
   (0x15C6, "dGHEdGHEEdGHIdGHAdRUdROdREdREEdRIdRAdWUdWOdWEdWEEdWIdWAdHWUdHWOdHWEdHWEEdHWI"),
   (0x15DB, "dHWAdTHUdTHOdTHEdTHEEdTHIdTHAdTTUdTTOdTTEdTTEEdTTIdTTAdPUdPOdPEdPEEdPIdPAdPdGU"),
   (0x15F0, "dGOdGEdGEEdGIdGAdKHUdKHOdKHEdKHEEdKHIdKHAdKKUdKKOdKKEdKKEEdKKIdKKAdKKdNUdNOdNE"),
   (0x1605, "dNEEdNIdNAdMUdMOdMEdMEEdMIdMAdYUdYOdYEdYEEdYIdYAdJUcSAYISI JUcCARRIER JOdJE"),
   (0x1618, "dJEEdJIcSAYISI JIcCARRIER JAdJJUdJJOdJJEdJJEEdJJIdJJAdLUdLOdLEdLEEdLIdLAdDLU"),
   (0x1629, "dDLOdDLEdDLEEdDLIdDLAdLHUdLHOdLHEdLHEEdLHIdLHAdTLHUdTLHOdTLHEdTLHEEdTLHIdTLHA"),
   (0x163A, "dTLUdTLOdTLEdTLEEdTLIdTLAdZUdZOdZEdZEEdZIdZAdZdINITIAL ZdDZUdDZOdDZEdDZEEdDZI"),
   (0x164D, "dDZAdSUdSOdSEdSEEdSIdSAdSHUdSHOdSHEdSHEEdSHIdSHAdSHdTSUdTSOdTSEdTSEEdTSIdTSA"),
   (0x1661, "dCHUdCHOdCHEdCHEEdCHIdCHAdTTSUdTTSOdTTSEdTTSEEdTTSIdTTSAcCHI SIGNcFULL STOP"),
   (0x166F, "cQAIcNGAIcNNGIcNNGIIcNNGOcNNGOOcNNGAcNNGAAcWOODS-CREE THWEEeTHWIeTHWIIeTHWO"),
   (0x167B, "eTHWOOeTHWAeTHWAAeFINAL THcBLACKFOOT WaOGHAM SPACE MARKbLETTER BEITHcLUIS"),
   (0x1683, "cFEARNcSAILcNIONcUATHcDAIRcTINNEcCOLLcCEIRTcMUINcGORTcNGEADALcSTRAIFcRUIScAILM"),
   (0x1691, "cONNcURcEADHADHcIODHADHcEABHADHcORcUILLEANNcIFINcEAMHANCHOLLcPEITH"),
   (0x169B, "bFEATHER MARKbREVERSED FEATHER MARK"),
   (0x16A0, "aRUNIC LETTER FEHU FEOH FE FcVcURUZ UR UcYRcYcWcTHURISAZ THURS THORNcETH"),
   (0x16A8, "cANSUZ AcOS OcAC AcAESCcLONG-BRANCH-OSS OcSHORT-TWIG-OSS OcOcOEcON"),
   (0x16B1, "cRAIDO RAD REID RcKAUNAcCENcKAUN KcGcENGcGEBO GYFU GcGARcWUNJO WYNN WcHAGLAZ H"),
   (0x16BB, "cHAEGL HcLONG-BRANCH-HAGALL HcSHORT-TWIG-HAGALL HcNAUDIZ NYD NAUD N"),
   (0x16BF, "cSHORT-TWIG-NAUD NcDOTTED-NcISAZ IS ISS IcEcJERAN JcGERcLONG-BRANCH-AR AE"),
   (0x16C6, "cSHORT-TWIG-AR AcIWAZ EOHcPERTHO PEORTH PcALGIZ EOLHXcSOWILO S"),
   (0x16CB, "cSIGEL LONG-BRANCH-SOL ScSHORT-TWIG-SOL ScCcZcTIWAZ TIR TYR TcSHORT-TWIG-TYR T"),
   (0x16D1, "cDcBERKANAN BEORC BJARKAN BcSHORT-TWIG-BJARKAN BcDOTTED-PcOPEN-PcEHWAZ EH E"),
   (0x16D7, "cMANNAZ MAN McLONG-BRANCH-MADR McSHORT-TWIG-MADR McLAUKAZ LAGU LOGR LcDOTTED-L"),
   (0x16DC, "cINGWAZcINGcDAGAZ DAEG DcOTHALAN ETHEL OcEARcIORcCWEORTHcCALCcCEALCcSTAN"),
   (0x16E6, "cLONG-BRANCH-YRcSHORT-TWIG-YRcICELANDIC-YRcQcXbSINGLE PUNCTUATION"),
   (0x16EC, "bMULTIPLE PUNCTUATIONbCROSS PUNCTUATIONbARLAUG SYMBOLbTVIMADUR SYMBOL"),
   (0x16F0, "bBELGTHOR SYMBOLbLETTER KcSHcOOcFRANKS CASKET OSeISeEHeACeAESC"),
   (0x1700, "aTAGALOG LETTER AcIcUcKAcGAcNGAcTAcDAcNAcPAcBAcMAcYAcRAcLAcWAcSAcHA"),
   (0x1712, "bVOWEL SIGN IdUbSIGN VIRAMAcPAMUDPOD"),
   (0x171F, "bLETTER ARCHAIC RAaHANUNOO LETTER AcIcUcKAcGAcNGAcTAcDAcNAcPAcBAcMAcYAcRAcLA"),
   (0x172F, "cWAcSAcHAbVOWEL SIGN IdUbSIGN PAMUDPODaPHILIPPINE SINGLE PUNCTUATION"),
   (0x1736, "bDOUBLE PUNCTUATION"),
   (0x1740, "aBUHID LETTER AcIcUcKAcGAcNGAcTAcDAcNAcPAcBAcMAcYAcRAcLAcWAcSAcHAbVOWEL SIGN I"),
   (0x1753, "dU"),
   (0x1760, "aTAGBANWA LETTER AcIcUcKAcGAcNGAcTAcDAcNAcPAcBAcMAcYA"),
   (0x176E, "cLAcWAcSA"),
   (0x1772, "bVOWEL SIGN IdU"),
   (0x1780, "aKHMER LETTER KAcKHAcKOcKHOcNGOcCAcCHAcCOcCHOcNYOcDAcTTHAcDOcTTHOcNNOcTAcTHA"),
   (0x1791, "cTOcTHOcNOcBAcPHAcPOcPHOcMOcYOcROcLOcVOcSHAcSSOcSAcHAcLAcQA"),
   (0x17A3, "bINDEPENDENT VOWEL QAQdQAAdQIdQIIdQUdQUKdQUUdQUUVdRYdRYYdLYdLYYdQEdQAI"),
   (0x17B1, "dQOO TYPE ONEfTWOdQAUbVOWEL INHERENT AQdAAcSIGN AAdIdIIdYdYYdUdUUdUAdOEdYAdIE"),
   (0x17C1, "dEdAEdAIdOOdAUbSIGN NIKAHITcREAHMUKcYUUKALEAPINTUcMUUSIKATOANcTRIISAPcBANTOC"),
   (0x17CC, "cROBATcTOANDAKHIATcKAKABATcAHSDAcSAMYOK SANNYAcVIRIAMcCOENGcBATHAMASATcKHAN"),
   (0x17D5, "cBARIYOOSANcCAMNUC PII KUUHcLEK TOOcBEYYALcPHNAEK MUANcKOOMUUT"),
   (0x17DB, "bCURRENCY SYMBOL RIELbSIGN AVAKRAHASANYAcATTHACAN"),
   (0x17E0, "bDIGIT ZEROcONEcTWOcTHREEcFOURcFIVEcSIXcSEVENcEIGHTcNINE"),
   (0x17F0, "bSYMBOL LEK ATTAK SONeMUOYePIIeBEIeBUONePRAMePRAM-MUOYfPIIfBEIfBUON"),
   (0x1800, "aMONGOLIAN BIRGAbELLIPSISbCOMMAbFULL STOPbCOLONbFOUR DOTSbTODO SOFT HYPHEN"),
   (0x1807, "bSIBE SYLLABLE BOUNDARY MARKERbMANCHU COMMAcFULL STOPbNIRUGU"),
   (0x180B, "bFREE VARIATION SELECTOR ONEeTWOeTHREEbVOWEL SEPARATOR"),
   (0x180F, "bFREE VARIATION SELECTOR FOURbDIGIT ZEROcONEcTWOcTHREEcFOURcFIVEcSIXcSEVEN"),
   (0x1818, "cEIGHTcNINE"),
   (0x1820, "bLETTER AcEcIcOcUcOEcUEcEEcNAcANGcBAcPAcQAcGAcMAcLAcSAcSHAcTAcDAcCHAcJAcYAcRA"),
   (0x1838, "cWAcFAcKAcKHAcTSAcZAcHAAcZRAcLHAcZHIcCHIcTODO LONG VOWEL SIGNdEdIdOdUdOEdUE"),
   (0x184A, "dANGdBAdPAdQAdGAdMAdTAdDAdCHAdJAdTSAdYAdWAdKAdGAAdHAAdJIAdNIAdDZAcSIBE EdIdIY"),
   (0x1860, "dUEdUdANGdKAdGAdHAdPAdSHAdTAdDAdJAdFAdGAAdHAAdTSAdZAdRAAdCHAdZHAcMANCHU IdKA"),
   (0x1875, "dRAdFAdZHAcCHA WITH TWO DOTS"),
   (0x1880, "cALI GALI ANUSVARA ONEeVISARGA ONEeDAMARUeUBADAMAeINVERTED UBADAMAeBALUDA"),
   (0x1886, "eTHREE BALUDAeAeIeKAeNGAeCAeTTAeTTHAeDDAeNNAeTAeDAePAePHAeSSAeZHAeZAeAH"),
   (0x1898, "cTODO ALI GALI TAfZHAcMANCHU ALI GALI GHAfNGAfCAfJHAfTTAfDDHAfTAfDHAfSSAfCYA"),
   (0x18A4, "fZHAfZAcALI GALI HALF UfYAcMANCHU ALI GALI BHAcALI GALI DAGALGA"),
   (0x18AA, "cMANCHU ALI GALI LHA"),
   (0x18B0, "aCANADIAN SYLLABICS OYcAYcAAYcWAYcPOYcPAYcPWOYcTAYcKAYcKWAYcMAYcNOYcNAYcLAY"),
   (0x18BE, "cSOYcSAYcSHOYcSHAYcSHWOYcYOYcYAYcRAYcNWIcOJIBWAY NWIcNWIIcOJIBWAY NWIIcNWO"),
   (0x18CB, "cOJIBWAY NWOcNWOOcOJIBWAY NWOOcRWEEcRWIcRWIIcRWOcRWOOcRWAcOJIBWAY PdTdKdCdMdN"),
   (0x18DA, "dSdSHcEASTERN WcWESTERN WcFINAL SMALL RINGdRAISED DOTcR-CREE RWEcWEST-CREE LOO"),
   (0x18E2, "eLAAcTHWEcTHWAcTTHWEcTTHOOcTTHAAcTLHWEcTLHOOcSAYISI SHWEdSHOOdHOOcCARRIER GWU"),
   (0x18EE, "dDENE GEEdGAAdGWAcSAYISI JUUcCARRIER JWAcBEAVER DENE LeRcCARRIER DENTAL S"),
   (0x1900, "aLIMBU VOWEL-CARRIER LETTERbLETTER KAcKHAcGAcGHAcNGAcCAcCHAcJAcJHAcYANcTAcTHA"),
   (0x190D, "cDAcDHAcNAcPAcPHAcBAcBHAcMAcYAcRAcLAcWAcSHAcSSAcSAcHAcGYANcTRA"),
   (0x1920, "bVOWEL SIGN AdIdUdEEdAIdOOdAUdEdObSUBJOINED LETTER YAdRAdWA"),
   (0x1930, "bSMALL LETTER KAdNGAdANUSVARAdTAdNAdPAdMAdRAdLAbSIGN MUKPHRENGcKEMPHRENGcSA-I"),
   (0x1940, "cLOO"),
   (0x1944, "bEXCLAMATION MARKbQUESTION MARKbDIGIT ZEROcONEcTWOcTHREEcFOURcFIVEcSIXcSEVEN"),
   (0x194E, "cEIGHTcNINEaTAI LE LETTER KAdXAdNGAdTSAdSAdYAdTAdTHAdLAdPAdPHAdMAdFAdVAdHAdQA"),
   (0x1960, "dKHAdTSHAdNAdAdIdEEdEHdUdOOdOdUEdEdAUEdAI"),
   (0x1970, "dTONE-2e3e4e5e6"),
   (0x1980, "aNEW TAI LUE LETTER HIGH QAeLOW QAeHIGH KAfXAfNGAeLOW KAfXAfNGAeHIGH TSAfSAfYA"),
   (0x198B, "eLOW TSAfSAfYAeHIGH TAfTHAfNAeLOW TAfTHAfNAeHIGH PAfPHAfMAeLOW PAfPHAfMA"),
   (0x199A, "eHIGH FAfVAfLAeLOW FAfVAfLAeHIGH HAfDAfBAeLOW HAfDAfBAeHIGH KVAfXVAeLOW KVA"),
   (0x19A9, "fXVAeHIGH SUAeLOW SUA"),
   (0x19B0, "dVOWEL SIGN VOWEL SHORTENERfAAfIIfUfUUfEfAEfOfOAfUEfAYfAAYfUYfOYfOAYfUEYfIY"),
   (0x19C1, "dLETTER FINAL VfNGfNfMfKfDfBdTONE MARK-1f2"),
   (0x19D0, "dDIGIT ZEROeONEeTWOeTHREEeFOUReFIVEeSIXeSEVENeEIGHTeNINEdTHAM DIGIT ONE"),
   (0x19DE, "dSIGN LAEeLAEVaKHMER SYMBOL PATHAMASATcMUOY KOETcPII KOETcBEI KOETcBUON KOET"),
   (0x19E5, "cPRAM KOETcPRAM-MUOY KOETdPII KOETdBEI KOETdBUON KOETcDAP KOETcDAP-MUOY KOET"),
   (0x19EC, "dPII KOETdBEI KOETdBUON KOETdPRAM KOETcTUTEYASATcMUOY ROCcPII ROCcBEI ROC"),
   (0x19F4, "cBUON ROCcPRAM ROCcPRAM-MUOY ROCdPII ROCdBEI ROCdBUON ROCcDAP ROCcDAP-MUOY ROC"),
   (0x19FC, "dPII ROCdBEI ROCdBUON ROCdPRAM ROCaBUGINESE LETTER KAcGAcNGAcNGKAcPAcBAcMAcMPA"),
   (0x1A08, "cTAcDAcNAcNRAcCAcJAcNYAcNYCAcYAcRAcLAcVAcSAcAcHAbVOWEL SIGN IdUdEdOdAE"),
   (0x1A1E, "bPALLAWAbEND OF SECTIONaTAI THAM LETTER HIGH KAeKHAeKXAdLOW KAeKXAeKHAdNGA"),
   (0x1A27, "dHIGH CAeCHAdLOW CAeSAeCHAdNYAdRATAdHIGH RATHAdDAdLOW RATHAdRANAdHIGH TAeTHA"),
   (0x1A34, "dLOW TAeTHAdNAdBAdHIGH PAePHAeFAdLOW PAeFAePHAdMAdLOW YAdHIGH YAdRAdRUEdLAdLUE"),
   (0x1A45, "dWAdHIGH SHAeSSAeSAeHAdLLAdAdLOW HAdIdIIdUdUUdEEdOOdLAEdGREAT SA"),
   (0x1A55, "cCONSONANT SIGN MEDIAL RAfLAeLA TANG LAIcSIGN MAI KANG LAI"),
   (0x1A59, "cCONSONANT SIGN FINAL NGAeLOW PAeHIGH RATHA OR LOW PAeMAeBAeSA"),
   (0x1A60, "cSIGN SAKOTcVOWEL SIGN AeMAI SATeAAeTALL AAeIeIIeUEeUUEeUeUUeOeOA BELOWeOYeE"),
   (0x1A6F, "eAEeOOeAIeTHAM AIeOA ABOVEcSIGN MAI KANGdTONE-1e2dKHUEN TONE-3f4f5dRA HAAM"),
   (0x1A7B, "dMAI SAMdKHUEN-LUE KARAN"),
   (0x1A7F, "cCOMBINING CRYPTOGRAMMIC DOTcHORA DIGIT ZEROeONEeTWOeTHREEeFOUReFIVEeSIXeSEVEN"),
   (0x1A88, "eEIGHTeNINE"),
   (0x1A90, "cTHAM DIGIT ZEROeONEeTWOeTHREEeFOUReFIVEeSIXeSEVENeEIGHTeNINE"),
   (0x1AA0, "cSIGN WIANGdWIANGWAAKdSAWANdKEOWdHOYdDOKMAIdREVERSED ROTATED RANAdMAI YAMOK"),
   (0x1AA8, "dKAANdKAANKUUdSATKAANdSATKAANKUUdHANGdCAANG"),
   (0x1AB0, "aCOMBINING DOUBLED CIRCUMFLEX ACCENTbDIAERESIS-RINGbINFINITYbDOWNWARDS ARROW"),
   (0x1AB4, "bTRIPLE DOTbX-X BELOWbWIGGLY LINE BELOWbOPEN MARK BELOWbDOUBLE OPEN MARK BELOW"),
   (0x1AB9, "bLIGHT CENTRALIZATION STROKE BELOWbSTRONG CENTRALIZATION STROKE BELOW"),
   (0x1ABB, "bPARENTHESES ABOVEbDOUBLE PARENTHESES ABOVEbPARENTHESES BELOWcOVERLAY"),
   (0x1ABF, "bLATIN SMALL LETTER W BELOWeTURNED W BELOWbLEFT PARENTHESIS ABOVE LEFT"),
   (0x1AC2, "bRIGHT PARENTHESIS ABOVE RIGHTbLEFT PARENTHESIS BELOW LEFT"),
   (0x1AC4, "bRIGHT PARENTHESIS BELOW RIGHTbSQUARE BRACKETS ABOVEbNUMBER SIGN ABOVE"),
   (0x1AC7, "bINVERTED DOUBLE ARCH ABOVEbPLUS SIGN ABOVEbDOUBLE PLUS SIGN ABOVEeBELOW"),
   (0x1ACB, "bTRIPLE ACUTE ACCENTbLATIN SMALL LETTER INSULAR GfRfT"),
   (0x1B00, "aBALINESE SIGN ULU RICEMdCANDRAcCECEKcSURANGcBISAHbLETTER AKARAcAKARA TEDUNG"),
   (0x1B07, "cIKARAcIKARA TEDUNGcUKARAcUKARA TEDUNGcRA REPAdREPA TEDUNGcLA LENGA"),
   (0x1B0E, "dLENGA TEDUNGcEKARAcAIKARAcOKARAcOKARA TEDUNGcKAcKA MAHAPRANAcGAcGA GORAcNGA"),
   (0x1B18, "cCAcCA LACAcJAcJA JERAcNYAcTA LATIKdMURDA MAHAPRANAcDA MURDA ALPAPRANA"),
   (0x1B20, "eMAHAPRANAcNA RAMBATcTAcTA TAWAcDAcDA MADUcNAcPAcPA KAPALcBAcBA KEMBANGcMAcYA"),
   (0x1B2D, "cRAcLAcWAcSA SAGAdSAPAcSAcHAbSIGN REREKANbVOWEL SIGN TEDUNGdULUdULU SARIdSUKU"),
   (0x1B39, "dSUKU ILUTdRA REPAeREPA TEDUNGdLA LENGAeLENGA TEDUNGdTALINGdTALING REPAeTEDUNG"),
   (0x1B41, "eREPA TEDUNGdPEPETdPEPET TEDUNGbADEG ADEGbLETTER KAF SASAKcKHOT SASAK"),
   (0x1B47, "cTZIR SASAKcEF SASAKcVE SASAKcZAL SASAKcASYURA SASAKcARCHAIC JNYA"),
   (0x1B50, "bDIGIT ZEROcONEcTWOcTHREEcFOURcFIVEcSIXcSEVENcEIGHTcNINEbPANTIbPAMADAbWINDU"),
   (0x1B5D, "bCARIK PAMUNGKAHcSIKIcPARERENbPAMENENGbMUSICAL SYMBOL DONGdDENGdDUNGdDANG"),
   (0x1B65, "dDANG SURANGdDINGdDAENGdDEUNGdDAINGdDANG GEDEdCOMBINING TEGEHeENDEPeKEMPUL"),
   (0x1B6E, "eKEMPLIeJEGOGANeKEMPUL WITH JEGOGANeKEMPLI WITH JEGOGANeBENDEeGONG"),
   (0x1B74, "dRIGHT-HAND OPEN DUGgDAGfCLOSED TUKgTAKdLEFT-HAND OPEN PANGgPUNGfCLOSED PLAK"),
   (0x1B7B, "gPLUKfOPEN PINGbPANTI LANTANGbPAMADA LANTANG"),
   (0x1B80, "aSUNDANESE SIGN PANYECEKcPANGLAYARcPANGWISADbLETTER AcIcUcAEcOcEcEUcKAcQAcGA"),
   (0x1B8D, "cNGAcCAcJAcZAcNYAcTAcDAcNAcPAcFAcVAcBAcMAcYAcRAcLAcWAcSAcXAcHA"),
   (0x1BA1, "bCONSONANT SIGN PAMINGKALdPANYAKRAdPANYIKUbVOWEL SIGN PANGHULUdPANYUKU"),
   (0x1BA6, "dPANAELAENGdPANOLONGdPAMEPETdPANEULEUNGbSIGN PAMAAEHcVIRAMA"),
   (0x1BAC, "bCONSONANT SIGN PASANGAN MAeWAbLETTER KHAcSYAbDIGIT ZEROcONEcTWOcTHREEcFOUR"),
   (0x1BB5, "cFIVEcSIXcSEVENcEIGHTcNINEbAVAGRAHAbLETTER REUcLEUcBHAcFINAL KdM"),
   (0x1BC0, "aBATAK LETTER AcSIMALUNGUN AcHAcSIMALUNGUN HAcMANDAILING HAcBAcKARO BAcPA"),
   (0x1BC8, "cSIMALUNGUN PAcNAcMANDAILING NAcWAcSIMALUNGUN WAcPAKPAK WAcGAcSIMALUNGUN GAcJA"),
   (0x1BD1, "cDAcRAcSIMALUNGUN RAcMAcSIMALUNGUN MAcSOUTHERN TAcNORTHERN TAcSAcSIMALUNGUN SA"),
   (0x1BDA, "cMANDAILING SAcYAcSIMALUNGUN YAcNGAcLAcSIMALUNGUN LAcNYAcCAcNDAcMBAcIcU"),
   (0x1BE6, "bSIGN TOMPIbVOWEL SIGN EdPAKPAK EdEEdIdKARO IdOdKARO OdUdU FOR SIMALUNGUN SA"),
   (0x1BF0, "bCONSONANT SIGN NGdHbPANGOLATbPANONGONAN"),
   (0x1BFC, "bSYMBOL BINDU NA METEKdPINARBORASdJUDULdPANGOLATaLEPCHA LETTER KAcKLAcKHAcGA"),
   (0x1C04, "cGLAcNGAcCAcCHAcJAcNYAcTAcTHAcDAcNAcPAcPLAcPHAcFAcFLAcBAcBLAcMAcMLAcTSAcTSHA"),
   (0x1C19, "cDZAcYAcRAcLAcHAcHLAcVAcSAcSHAcWAcAbSUBJOINED LETTER YAdRAbVOWEL SIGN AAdIdO"),
   (0x1C29, "dOOdUdUUdEbCONSONANT SIGN KdMdLdNdPdRdTdNYIN-DOdKANGbSIGN RANcNUKTA"),
   (0x1C3B, "bPUNCTUATION TA-ROLcNYET THYOOM TA-ROLcCER-WAcTSHOOK CER-WAcTSHOOKbDIGIT ZERO"),
   (0x1C41, "cONEcTWOcTHREEcFOURcFIVEcSIXcSEVENcEIGHTcNINE"),
   (0x1C4D, "bLETTER TTAcTTHAcDDAaOL CHIKI DIGIT ZEROdONEdTWOdTHREEdFOURdFIVEdSIXdSEVEN"),
   (0x1C58, "dEIGHTdNINEcLETTER LAdATdAGdANGdALdLAAdAAKdAAJdAAMdAAWdLIdISdIHdINYdIRdLUdUC"),
   (0x1C6B, "dUDdUNNdUYdLEdEPdEDDdENdERRdLOdOTTdOBdOVdOHcMU TTUDDAGcGAAHLAA TTUDDAAG"),
   (0x1C7A, "cMU-GAAHLAA TTUDDAAGcRELAAcPHAARKAAcAHADcPUNCTUATION MUCAADdDOUBLE MUCAAD"),
   (0x1C80, "aCYRILLIC SMALL LETTER ROUNDED VEdLONG-LEGGED DEdNARROW OdWIDE ESdTALL TE"),
   (0x1C85, "dTHREE-LEGGED TEdTALL HARD SIGNeYATdUNBLENDED UK"),
   (0x1C90, "aGEORGIAN MTAVRULI CAPITAL LETTER ANeBANeGANeDONeENeVINeZENeTANeINeKANeLASeMAN"),
   (0x1C9C, "eNAReONePAReZHAReRAEeSANeTAReUNePHAReKHAReGHANeQAReSHINeCHINeCANeJILeCILeCHAR"),
   (0x1CAE, "eXANeJHANeHAEeHEeHIEeWEeHAReHOEeFIeYNeELIFIeTURNED GANeAIN"),
   (0x1CBD, "eAENeHARD SIGNeLABIAL SIGNaSUNDANESE PUNCTUATION BINDU SURYAdPANGLONGdPURNAMA"),
   (0x1CC3, "dCAKRAdLEU SATANGAdKA SATANGAdDA SATANGAdBA SATANGA"),
   (0x1CD0, "aVEDIC TONE KARSHANAcSHARAcPRENKHAbSIGN NIHSHVASAcYAJURVEDIC MIDLINE SVARITA"),
   (0x1CD5, "bTONE YAJURVEDIC AGGRAVATED INDEPENDENT SVARITAdINDEPENDENT SVARITA"),
   (0x1CD7, "dKATHAKA INDEPENDENT SVARITAcCANDRA BELOW"),
   (0x1CD9, "cYAJURVEDIC KATHAKA INDEPENDENT SVARITA SCHROEDERcDOUBLE SVARITA"),
   (0x1CDB, "cTRIPLE SVARITAcKATHAKA ANUDATTAcDOT BELOWcTWO DOTS BELOWcTHREE DOTS BELOW"),
   (0x1CE0, "cRIGVEDIC KASHMIRI INDEPENDENT SVARITAcATHARVAVEDIC INDEPENDENT SVARITA"),
   (0x1CE2, "bSIGN VISARGA SVARITAdUDATTAcREVERSED VISARGA UDATTAcVISARGA ANUDATTA"),
   (0x1CE6, "cREVERSED VISARGA ANUDATTAcVISARGA UDATTA WITH TAILdANUDATTA WITH TAIL"),
   (0x1CE9, "cANUSVARA ANTARGOMUKHAdBAHIRGOMUKHAdVAMAGOMUKHAdVAMAGOMUKHA WITH TAILcTIRYAK"),
   (0x1CEE, "cHEXIFORM LONG ANUSVARAcLONG ANUSVARAcRTHANG LONG ANUSVARA"),
   (0x1CF1, "cANUSVARA UBHAYATO MUKHAcARDHAVISARGAcROTATED ARDHAVISARGAbTONE CANDRA ABOVE"),
   (0x1CF5, "bSIGN JIHVAMULIYAcUPADHMANIYAcATIKRAMAbTONE RING ABOVEcDOUBLE RING ABOVE"),
   (0x1CFA, "bSIGN DOUBLE ANUSVARA ANTARGOMUKHA"),
   (0x1D00, "aLATIN LETTER SMALL CAPITAL AeAEbSMALL LETTER TURNED AE"),
   (0x1D03, "bLETTER SMALL CAPITAL BARRED BeCeDeETHeEbSMALL LETTER TURNED OPEN EeI"),
   (0x1D0A, "bLETTER SMALL CAPITAL JeKeL WITH STROKEeMeREVERSED NeOeOPEN O"),
   (0x1D11, "bSMALL LETTER SIDEWAYS OeOPEN OeO WITH STROKEdTURNED OE"),
   (0x1D15, "bLETTER SMALL CAPITAL OUbSMALL LETTER TOP HALF OdBOTTOM HALF O"),
   (0x1D18, "bLETTER SMALL CAPITAL PeREVERSED ReTURNED ReTeUbSMALL LETTER SIDEWAYS U"),
   (0x1D1E, "eDIAERESIZED UeTURNED MbLETTER SMALL CAPITAL VeWeZeEZH"),
   (0x1D24, "cVOICED LARYNGEAL SPIRANTcAINaGREEK LETTER SMALL CAPITAL GAMMAeLAMDAePIeRHO"),
   (0x1D2A, "ePSIaCYRILLIC LETTER SMALL CAPITAL ELaMODIFIER LETTER CAPITAL AdAEdBdBARRED B"),
   (0x1D30, "dDdEdREVERSED EdGdHdIdJdKdLdMdNdREVERSED NdOdOUdPdRdTdUdWcSMALL AdTURNED A"),
   (0x1D45, "dALPHAdTURNED AEdBdDdEdSCHWAdOPEN EdTURNED OPEN EdGdTURNED IdKdMdENGdOdOPEN O"),
   (0x1D54, "dTOP HALF OdBOTTOM HALF OdPdTdUdSIDEWAYS UdTURNED MdVdAINdBETAdGREEK GAMMA"),
   (0x1D5F, "dDELTAdGREEK PHIdCHIaLATIN SUBSCRIPT SMALL LETTER IeReUeV"),
   (0x1D66, "aGREEK SUBSCRIPT SMALL LETTER BETAeGAMMAeRHOePHIeCHIaLATIN SMALL LETTER UE"),
   (0x1D6C, "dB WITH MIDDLE TILDEdD WITH MIDDLE TILDEdF WITH MIDDLE TILDE"),
   (0x1D6F, "dM WITH MIDDLE TILDEdN WITH MIDDLE TILDEdP WITH MIDDLE TILDE"),
   (0x1D72, "dR WITH MIDDLE TILDEfFISHHOOK AND MIDDLE TILDEdS WITH MIDDLE TILDE"),
   (0x1D75, "dT WITH MIDDLE TILDEdZ WITH MIDDLE TILDEdTURNED GaMODIFIER LETTER CYRILLIC EN"),
   (0x1D79, "aLATIN SMALL LETTER INSULAR GdTH WITH STRIKETHROUGH"),
   (0x1D7B, "cCAPITAL LETTER I WITH STROKEcLETTER IOTA WITH STROKEdP WITH STROKE"),
   (0x1D7E, "cCAPITAL LETTER U WITH STROKEcLETTER UPSILON WITH STROKEdB WITH PALATAL HOOK"),
   (0x1D81, "dD WITH PALATAL HOOKdF WITH PALATAL HOOKdG WITH PALATAL HOOK"),
   (0x1D84, "dK WITH PALATAL HOOKdL WITH PALATAL HOOKdM WITH PALATAL HOOK"),
   (0x1D87, "dN WITH PALATAL HOOKdP WITH PALATAL HOOKdR WITH PALATAL HOOK"),
   (0x1D8A, "dS WITH PALATAL HOOKdESH WITH PALATAL HOOKdV WITH PALATAL HOOK"),
   (0x1D8D, "dX WITH PALATAL HOOKdZ WITH PALATAL HOOKdA WITH RETROFLEX HOOK"),
   (0x1D90, "dALPHA WITH RETROFLEX HOOKdD WITH HOOK AND TAILdE WITH RETROFLEX HOOK"),
   (0x1D93, "dOPEN E WITH RETROFLEX HOOKdREVERSED OPEN E WITH RETROFLEX HOOK"),
   (0x1D95, "dSCHWA WITH RETROFLEX HOOKdI WITH RETROFLEX HOOKdOPEN O WITH RETROFLEX HOOK"),
   (0x1D98, "dESH WITH RETROFLEX HOOKdU WITH RETROFLEX HOOKdEZH WITH RETROFLEX HOOK"),
   (0x1D9B, "aMODIFIER LETTER SMALL TURNED ALPHAdCdC WITH CURLdETHdREVERSED OPEN EdF"),
   (0x1DA1, "dDOTLESS J WITH STROKEdSCRIPT GdTURNED HdI WITH STROKEdIOTAdCAPITAL I"),
   (0x1DA7, "eI WITH STROKEdJ WITH CROSSED-TAILdL WITH RETROFLEX HOOKfPALATAL HOOK"),
   (0x1DAB, "dCAPITAL LdM WITH HOOKdTURNED M WITH LONG LEGdN WITH LEFT HOOKfRETROFLEX HOOK"),
   (0x1DB0, "dCAPITAL NdBARRED OdPHIdS WITH HOOKdESHdT WITH PALATAL HOOKdU BARdUPSILON"),
   (0x1DB8, "dCAPITAL UdV WITH HOOKdTURNED VdZdZ WITH RETROFLEX HOOKfCURLdEZHdTHETA"),
   (0x1DC0, "aCOMBINING DOTTED GRAVE ACCENTcACUTE ACCENTbSNAKE BELOWbSUSPENSION MARK"),
   (0x1DC4, "bMACRON-ACUTEbGRAVE-MACRONbMACRON-GRAVEbACUTE-MACRONbGRAVE-ACUTE-GRAVE"),
   (0x1DC9, "bACUTE-GRAVE-ACUTEbLATIN SMALL LETTER R BELOWbBREVE-MACRONbMACRON-BREVE"),
   (0x1DCD, "bDOUBLE CIRCUMFLEX ABOVEbOGONEK ABOVEbZIGZAG BELOWbIS BELOWbUR ABOVEbUS ABOVE"),
   (0x1DD3, "bLATIN SMALL LETTER FLATTENED OPEN A ABOVEeAEeAOeAVeC CEDILLAeINSULAR DeETHeG"),
   (0x1DDB, "cLETTER SMALL CAPITAL GcSMALL LETTER KeLcLETTER SMALL CAPITAL LfM"),
   (0x1DE0, "cSMALL LETTER NcLETTER SMALL CAPITAL NfRcSMALL LETTER R ROTUNDAeSeLONG SeZ"),
   (0x1DE7, "eALPHAeBeBETAeSCHWAeFeL WITH DOUBLE MIDDLE TILDE"),
   (0x1DED, "eO WITH LIGHT CENTRALIZATION STROKEePeESHeU WITH LIGHT CENTRALIZATION STROKEeW"),
   (0x1DF2, "eA WITH DIAERESISeO WITH DIAERESISeU WITH DIAERESISbUP TACK ABOVE"),
   (0x1DF6, "bKAVYKA ABOVE RIGHTdLEFTbDOT ABOVE LEFTbWIDE INVERTED BRIDGE BELOW"),
   (0x1DFA, "bDOT BELOW LEFTbDELETION MARKbDOUBLE INVERTED BREVE BELOW"),
   (0x1DFD, "bALMOST EQUAL TO BELOWbLEFT ARROWHEAD ABOVE"),
   (0x1DFF, "bRIGHT ARROWHEAD AND DOWN ARROWHEAD BELOW"),
   (0x1E00, "aLATIN CAPITAL LETTER A WITH RING BELOWbSMALL LETTER A WITH RING BELOW"),
   (0x1E02, "bCAPITAL LETTER B WITH DOT ABOVEbSMALL LETTER B WITH DOT ABOVE"),
   (0x1E04, "bCAPITAL LETTER B WITH DOT BELOWbSMALL LETTER B WITH DOT BELOW"),
   (0x1E06, "bCAPITAL LETTER B WITH LINE BELOWbSMALL LETTER B WITH LINE BELOW"),
   (0x1E08, "bCAPITAL LETTER C WITH CEDILLA AND ACUTEbSMALL LETTER C WITH CEDILLA AND ACUTE"),
   (0x1E0A, "bCAPITAL LETTER D WITH DOT ABOVEbSMALL LETTER D WITH DOT ABOVE"),
   (0x1E0C, "bCAPITAL LETTER D WITH DOT BELOWbSMALL LETTER D WITH DOT BELOW"),
   (0x1E0E, "bCAPITAL LETTER D WITH LINE BELOWbSMALL LETTER D WITH LINE BELOW"),
   (0x1E10, "bCAPITAL LETTER D WITH CEDILLAbSMALL LETTER D WITH CEDILLA"),
   (0x1E12, "bCAPITAL LETTER D WITH CIRCUMFLEX BELOWbSMALL LETTER D WITH CIRCUMFLEX BELOW"),
   (0x1E14, "bCAPITAL LETTER E WITH MACRON AND GRAVEbSMALL LETTER E WITH MACRON AND GRAVE"),
   (0x1E16, "bCAPITAL LETTER E WITH MACRON AND ACUTEbSMALL LETTER E WITH MACRON AND ACUTE"),
   (0x1E18, "bCAPITAL LETTER E WITH CIRCUMFLEX BELOWbSMALL LETTER E WITH CIRCUMFLEX BELOW"),
   (0x1E1A, "bCAPITAL LETTER E WITH TILDE BELOWbSMALL LETTER E WITH TILDE BELOW"),
   (0x1E1C, "bCAPITAL LETTER E WITH CEDILLA AND BREVEbSMALL LETTER E WITH CEDILLA AND BREVE"),
   (0x1E1E, "bCAPITAL LETTER F WITH DOT ABOVEbSMALL LETTER F WITH DOT ABOVE"),
   (0x1E20, "bCAPITAL LETTER G WITH MACRONbSMALL LETTER G WITH MACRON"),
   (0x1E22, "bCAPITAL LETTER H WITH DOT ABOVEbSMALL LETTER H WITH DOT ABOVE"),
   (0x1E24, "bCAPITAL LETTER H WITH DOT BELOWbSMALL LETTER H WITH DOT BELOW"),
   (0x1E26, "bCAPITAL LETTER H WITH DIAERESISbSMALL LETTER H WITH DIAERESIS"),
   (0x1E28, "bCAPITAL LETTER H WITH CEDILLAbSMALL LETTER H WITH CEDILLA"),
   (0x1E2A, "bCAPITAL LETTER H WITH BREVE BELOWbSMALL LETTER H WITH BREVE BELOW"),
   (0x1E2C, "bCAPITAL LETTER I WITH TILDE BELOWbSMALL LETTER I WITH TILDE BELOW"),
   (0x1E2E, "bCAPITAL LETTER I WITH DIAERESIS AND ACUTE"),
   (0x1E2F, "bSMALL LETTER I WITH DIAERESIS AND ACUTEbCAPITAL LETTER K WITH ACUTE"),
   (0x1E31, "bSMALL LETTER K WITH ACUTEbCAPITAL LETTER K WITH DOT BELOW"),
   (0x1E33, "bSMALL LETTER K WITH DOT BELOWbCAPITAL LETTER K WITH LINE BELOW"),
   (0x1E35, "bSMALL LETTER K WITH LINE BELOWbCAPITAL LETTER L WITH DOT BELOW"),
   (0x1E37, "bSMALL LETTER L WITH DOT BELOWbCAPITAL LETTER L WITH DOT BELOW AND MACRON"),
   (0x1E39, "bSMALL LETTER L WITH DOT BELOW AND MACRONbCAPITAL LETTER L WITH LINE BELOW"),
   (0x1E3B, "bSMALL LETTER L WITH LINE BELOWbCAPITAL LETTER L WITH CIRCUMFLEX BELOW"),
   (0x1E3D, "bSMALL LETTER L WITH CIRCUMFLEX BELOWbCAPITAL LETTER M WITH ACUTE"),
   (0x1E3F, "bSMALL LETTER M WITH ACUTEbCAPITAL LETTER M WITH DOT ABOVE"),
   (0x1E41, "bSMALL LETTER M WITH DOT ABOVEbCAPITAL LETTER M WITH DOT BELOW"),
   (0x1E43, "bSMALL LETTER M WITH DOT BELOWbCAPITAL LETTER N WITH DOT ABOVE"),
   (0x1E45, "bSMALL LETTER N WITH DOT ABOVEbCAPITAL LETTER N WITH DOT BELOW"),
   (0x1E47, "bSMALL LETTER N WITH DOT BELOWbCAPITAL LETTER N WITH LINE BELOW"),
   (0x1E49, "bSMALL LETTER N WITH LINE BELOWbCAPITAL LETTER N WITH CIRCUMFLEX BELOW"),
   (0x1E4B, "bSMALL LETTER N WITH CIRCUMFLEX BELOWbCAPITAL LETTER O WITH TILDE AND ACUTE"),
   (0x1E4D, "bSMALL LETTER O WITH TILDE AND ACUTEbCAPITAL LETTER O WITH TILDE AND DIAERESIS"),
   (0x1E4F, "bSMALL LETTER O WITH TILDE AND DIAERESIS"),
   (0x1E50, "bCAPITAL LETTER O WITH MACRON AND GRAVEbSMALL LETTER O WITH MACRON AND GRAVE"),
   (0x1E52, "bCAPITAL LETTER O WITH MACRON AND ACUTEbSMALL LETTER O WITH MACRON AND ACUTE"),
   (0x1E54, "bCAPITAL LETTER P WITH ACUTEbSMALL LETTER P WITH ACUTE"),
   (0x1E56, "bCAPITAL LETTER P WITH DOT ABOVEbSMALL LETTER P WITH DOT ABOVE"),
   (0x1E58, "bCAPITAL LETTER R WITH DOT ABOVEbSMALL LETTER R WITH DOT ABOVE"),
   (0x1E5A, "bCAPITAL LETTER R WITH DOT BELOWbSMALL LETTER R WITH DOT BELOW"),
   (0x1E5C, "bCAPITAL LETTER R WITH DOT BELOW AND MACRON"),
   (0x1E5D, "bSMALL LETTER R WITH DOT BELOW AND MACRONbCAPITAL LETTER R WITH LINE BELOW"),
   (0x1E5F, "bSMALL LETTER R WITH LINE BELOWbCAPITAL LETTER S WITH DOT ABOVE"),
   (0x1E61, "bSMALL LETTER S WITH DOT ABOVEbCAPITAL LETTER S WITH DOT BELOW"),
   (0x1E63, "bSMALL LETTER S WITH DOT BELOWbCAPITAL LETTER S WITH ACUTE AND DOT ABOVE"),
   (0x1E65, "bSMALL LETTER S WITH ACUTE AND DOT ABOVE"),
   (0x1E66, "bCAPITAL LETTER S WITH CARON AND DOT ABOVE"),
   (0x1E67, "bSMALL LETTER S WITH CARON AND DOT ABOVE"),
   (0x1E68, "bCAPITAL LETTER S WITH DOT BELOW AND DOT ABOVE"),
   (0x1E69, "bSMALL LETTER S WITH DOT BELOW AND DOT ABOVEbCAPITAL LETTER T WITH DOT ABOVE"),
   (0x1E6B, "bSMALL LETTER T WITH DOT ABOVEbCAPITAL LETTER T WITH DOT BELOW"),
   (0x1E6D, "bSMALL LETTER T WITH DOT BELOWbCAPITAL LETTER T WITH LINE BELOW"),
   (0x1E6F, "bSMALL LETTER T WITH LINE BELOWbCAPITAL LETTER T WITH CIRCUMFLEX BELOW"),
   (0x1E71, "bSMALL LETTER T WITH CIRCUMFLEX BELOWbCAPITAL LETTER U WITH DIAERESIS BELOW"),
   (0x1E73, "bSMALL LETTER U WITH DIAERESIS BELOWbCAPITAL LETTER U WITH TILDE BELOW"),
   (0x1E75, "bSMALL LETTER U WITH TILDE BELOWbCAPITAL LETTER U WITH CIRCUMFLEX BELOW"),
   (0x1E77, "bSMALL LETTER U WITH CIRCUMFLEX BELOWbCAPITAL LETTER U WITH TILDE AND ACUTE"),
   (0x1E79, "bSMALL LETTER U WITH TILDE AND ACUTE"),
   (0x1E7A, "bCAPITAL LETTER U WITH MACRON AND DIAERESIS"),
   (0x1E7B, "bSMALL LETTER U WITH MACRON AND DIAERESISbCAPITAL LETTER V WITH TILDE"),
   (0x1E7D, "bSMALL LETTER V WITH TILDEbCAPITAL LETTER V WITH DOT BELOW"),
   (0x1E7F, "bSMALL LETTER V WITH DOT BELOWbCAPITAL LETTER W WITH GRAVE"),
   (0x1E81, "bSMALL LETTER W WITH GRAVEbCAPITAL LETTER W WITH ACUTE"),
   (0x1E83, "bSMALL LETTER W WITH ACUTEbCAPITAL LETTER W WITH DIAERESIS"),
   (0x1E85, "bSMALL LETTER W WITH DIAERESISbCAPITAL LETTER W WITH DOT ABOVE"),
   (0x1E87, "bSMALL LETTER W WITH DOT ABOVEbCAPITAL LETTER W WITH DOT BELOW"),
   (0x1E89, "bSMALL LETTER W WITH DOT BELOWbCAPITAL LETTER X WITH DOT ABOVE"),
   (0x1E8B, "bSMALL LETTER X WITH DOT ABOVEbCAPITAL LETTER X WITH DIAERESIS"),
   (0x1E8D, "bSMALL LETTER X WITH DIAERESISbCAPITAL LETTER Y WITH DOT ABOVE"),
   (0x1E8F, "bSMALL LETTER Y WITH DOT ABOVEbCAPITAL LETTER Z WITH CIRCUMFLEX"),
   (0x1E91, "bSMALL LETTER Z WITH CIRCUMFLEXbCAPITAL LETTER Z WITH DOT BELOW"),
   (0x1E93, "bSMALL LETTER Z WITH DOT BELOWbCAPITAL LETTER Z WITH LINE BELOW"),
   (0x1E95, "bSMALL LETTER Z WITH LINE BELOWdH WITH LINE BELOWdT WITH DIAERESIS"),
   (0x1E98, "dW WITH RING ABOVEdY WITH RING ABOVEdA WITH RIGHT HALF RING"),
   (0x1E9B, "dLONG S WITH DOT ABOVEgDIAGONAL STROKEgHIGH STROKEbCAPITAL LETTER SHARP S"),
   (0x1E9F, "bSMALL LETTER DELTAbCAPITAL LETTER A WITH DOT BELOW"),
   (0x1EA1, "bSMALL LETTER A WITH DOT BELOWbCAPITAL LETTER A WITH HOOK ABOVE"),
   (0x1EA3, "bSMALL LETTER A WITH HOOK ABOVEbCAPITAL LETTER A WITH CIRCUMFLEX AND ACUTE"),
   (0x1EA5, "bSMALL LETTER A WITH CIRCUMFLEX AND ACUTE"),
   (0x1EA6, "bCAPITAL LETTER A WITH CIRCUMFLEX AND GRAVE"),
   (0x1EA7, "bSMALL LETTER A WITH CIRCUMFLEX AND GRAVE"),
   (0x1EA8, "bCAPITAL LETTER A WITH CIRCUMFLEX AND HOOK ABOVE"),
   (0x1EA9, "bSMALL LETTER A WITH CIRCUMFLEX AND HOOK ABOVE"),
   (0x1EAA, "bCAPITAL LETTER A WITH CIRCUMFLEX AND TILDE"),
   (0x1EAB, "bSMALL LETTER A WITH CIRCUMFLEX AND TILDE"),
   (0x1EAC, "bCAPITAL LETTER A WITH CIRCUMFLEX AND DOT BELOW"),
   (0x1EAD, "bSMALL LETTER A WITH CIRCUMFLEX AND DOT BELOW"),
   (0x1EAE, "bCAPITAL LETTER A WITH BREVE AND ACUTEbSMALL LETTER A WITH BREVE AND ACUTE"),
   (0x1EB0, "bCAPITAL LETTER A WITH BREVE AND GRAVEbSMALL LETTER A WITH BREVE AND GRAVE"),
   (0x1EB2, "bCAPITAL LETTER A WITH BREVE AND HOOK ABOVE"),
   (0x1EB3, "bSMALL LETTER A WITH BREVE AND HOOK ABOVE"),
   (0x1EB4, "bCAPITAL LETTER A WITH BREVE AND TILDEbSMALL LETTER A WITH BREVE AND TILDE"),
   (0x1EB6, "bCAPITAL LETTER A WITH BREVE AND DOT BELOW"),
   (0x1EB7, "bSMALL LETTER A WITH BREVE AND DOT BELOWbCAPITAL LETTER E WITH DOT BELOW"),
   (0x1EB9, "bSMALL LETTER E WITH DOT BELOWbCAPITAL LETTER E WITH HOOK ABOVE"),
   (0x1EBB, "bSMALL LETTER E WITH HOOK ABOVEbCAPITAL LETTER E WITH TILDE"),
   (0x1EBD, "bSMALL LETTER E WITH TILDEbCAPITAL LETTER E WITH CIRCUMFLEX AND ACUTE"),
   (0x1EBF, "bSMALL LETTER E WITH CIRCUMFLEX AND ACUTE"),
   (0x1EC0, "bCAPITAL LETTER E WITH CIRCUMFLEX AND GRAVE"),
   (0x1EC1, "bSMALL LETTER E WITH CIRCUMFLEX AND GRAVE"),
   (0x1EC2, "bCAPITAL LETTER E WITH CIRCUMFLEX AND HOOK ABOVE"),
   (0x1EC3, "bSMALL LETTER E WITH CIRCUMFLEX AND HOOK ABOVE"),
   (0x1EC4, "bCAPITAL LETTER E WITH CIRCUMFLEX AND TILDE"),
   (0x1EC5, "bSMALL LETTER E WITH CIRCUMFLEX AND TILDE"),
   (0x1EC6, "bCAPITAL LETTER E WITH CIRCUMFLEX AND DOT BELOW"),
   (0x1EC7, "bSMALL LETTER E WITH CIRCUMFLEX AND DOT BELOWbCAPITAL LETTER I WITH HOOK ABOVE"),
   (0x1EC9, "bSMALL LETTER I WITH HOOK ABOVEbCAPITAL LETTER I WITH DOT BELOW"),
   (0x1ECB, "bSMALL LETTER I WITH DOT BELOWbCAPITAL LETTER O WITH DOT BELOW"),
   (0x1ECD, "bSMALL LETTER O WITH DOT BELOWbCAPITAL LETTER O WITH HOOK ABOVE"),
   (0x1ECF, "bSMALL LETTER O WITH HOOK ABOVEbCAPITAL LETTER O WITH CIRCUMFLEX AND ACUTE"),
   (0x1ED1, "bSMALL LETTER O WITH CIRCUMFLEX AND ACUTE"),
   (0x1ED2, "bCAPITAL LETTER O WITH CIRCUMFLEX AND GRAVE"),
   (0x1ED3, "bSMALL LETTER O WITH CIRCUMFLEX AND GRAVE"),
   (0x1ED4, "bCAPITAL LETTER O WITH CIRCUMFLEX AND HOOK ABOVE"),
   (0x1ED5, "bSMALL LETTER O WITH CIRCUMFLEX AND HOOK ABOVE"),
   (0x1ED6, "bCAPITAL LETTER O WITH CIRCUMFLEX AND TILDE"),
   (0x1ED7, "bSMALL LETTER O WITH CIRCUMFLEX AND TILDE"),
   (0x1ED8, "bCAPITAL LETTER O WITH CIRCUMFLEX AND DOT BELOW"),
   (0x1ED9, "bSMALL LETTER O WITH CIRCUMFLEX AND DOT BELOW"),
   (0x1EDA, "bCAPITAL LETTER O WITH HORN AND ACUTEbSMALL LETTER O WITH HORN AND ACUTE"),
   (0x1EDC, "bCAPITAL LETTER O WITH HORN AND GRAVEbSMALL LETTER O WITH HORN AND GRAVE"),
   (0x1EDE, "bCAPITAL LETTER O WITH HORN AND HOOK ABOVE"),
   (0x1EDF, "bSMALL LETTER O WITH HORN AND HOOK ABOVEbCAPITAL LETTER O WITH HORN AND TILDE"),
   (0x1EE1, "bSMALL LETTER O WITH HORN AND TILDEbCAPITAL LETTER O WITH HORN AND DOT BELOW"),
   (0x1EE3, "bSMALL LETTER O WITH HORN AND DOT BELOWbCAPITAL LETTER U WITH DOT BELOW"),
   (0x1EE5, "bSMALL LETTER U WITH DOT BELOWbCAPITAL LETTER U WITH HOOK ABOVE"),
   (0x1EE7, "bSMALL LETTER U WITH HOOK ABOVEbCAPITAL LETTER U WITH HORN AND ACUTE"),
   (0x1EE9, "bSMALL LETTER U WITH HORN AND ACUTEbCAPITAL LETTER U WITH HORN AND GRAVE"),
   (0x1EEB, "bSMALL LETTER U WITH HORN AND GRAVEbCAPITAL LETTER U WITH HORN AND HOOK ABOVE"),
   (0x1EED, "bSMALL LETTER U WITH HORN AND HOOK ABOVEbCAPITAL LETTER U WITH HORN AND TILDE"),
   (0x1EEF, "bSMALL LETTER U WITH HORN AND TILDEbCAPITAL LETTER U WITH HORN AND DOT BELOW"),
   (0x1EF1, "bSMALL LETTER U WITH HORN AND DOT BELOWbCAPITAL LETTER Y WITH GRAVE"),
   (0x1EF3, "bSMALL LETTER Y WITH GRAVEbCAPITAL LETTER Y WITH DOT BELOW"),
   (0x1EF5, "bSMALL LETTER Y WITH DOT BELOWbCAPITAL LETTER Y WITH HOOK ABOVE"),
   (0x1EF7, "bSMALL LETTER Y WITH HOOK ABOVEbCAPITAL LETTER Y WITH TILDE"),
   (0x1EF9, "bSMALL LETTER Y WITH TILDEbCAPITAL LETTER MIDDLE-WELSH LL"),
   (0x1EFB, "bSMALL LETTER MIDDLE-WELSH LLbCAPITAL LETTER MIDDLE-WELSH V"),
   (0x1EFD, "bSMALL LETTER MIDDLE-WELSH VbCAPITAL LETTER Y WITH LOOP"),
   (0x1EFF, "bSMALL LETTER Y WITH LOOPaGREEK SMALL LETTER ALPHA WITH PSILIfDASIA"),
   (0x1F02, "fPSILI AND VARIAfDASIA AND VARIAfPSILI AND OXIAfDASIA AND OXIA"),
   (0x1F06, "fPSILI AND PERISPOMENIfDASIA AND PERISPOMENIbCAPITAL LETTER ALPHA WITH PSILI"),
   (0x1F09, "fDASIAfPSILI AND VARIAfDASIA AND VARIAfPSILI AND OXIAfDASIA AND OXIA"),
   (0x1F0E, "fPSILI AND PERISPOMENIfDASIA AND PERISPOMENIbSMALL LETTER EPSILON WITH PSILI"),
   (0x1F11, "fDASIAfPSILI AND VARIAfDASIA AND VARIAfPSILI AND OXIAfDASIA AND OXIA"),
   (0x1F18, "bCAPITAL LETTER EPSILON WITH PSILIfDASIAfPSILI AND VARIAfDASIA AND VARIA"),
   (0x1F1C, "fPSILI AND OXIAfDASIA AND OXIA"),
   (0x1F20, "bSMALL LETTER ETA WITH PSILIfDASIAfPSILI AND VARIAfDASIA AND VARIA"),
   (0x1F24, "fPSILI AND OXIAfDASIA AND OXIAfPSILI AND PERISPOMENIfDASIA AND PERISPOMENI"),
   (0x1F28, "bCAPITAL LETTER ETA WITH PSILIfDASIAfPSILI AND VARIAfDASIA AND VARIA"),
   (0x1F2C, "fPSILI AND OXIAfDASIA AND OXIAfPSILI AND PERISPOMENIfDASIA AND PERISPOMENI"),
   (0x1F30, "bSMALL LETTER IOTA WITH PSILIfDASIAfPSILI AND VARIAfDASIA AND VARIA"),
   (0x1F34, "fPSILI AND OXIAfDASIA AND OXIAfPSILI AND PERISPOMENIfDASIA AND PERISPOMENI"),
   (0x1F38, "bCAPITAL LETTER IOTA WITH PSILIfDASIAfPSILI AND VARIAfDASIA AND VARIA"),
   (0x1F3C, "fPSILI AND OXIAfDASIA AND OXIAfPSILI AND PERISPOMENIfDASIA AND PERISPOMENI"),
   (0x1F40, "bSMALL LETTER OMICRON WITH PSILIfDASIAfPSILI AND VARIAfDASIA AND VARIA"),
   (0x1F44, "fPSILI AND OXIAfDASIA AND OXIA"),
   (0x1F48, "bCAPITAL LETTER OMICRON WITH PSILIfDASIAfPSILI AND VARIAfDASIA AND VARIA"),
   (0x1F4C, "fPSILI AND OXIAfDASIA AND OXIA"),
   (0x1F50, "bSMALL LETTER UPSILON WITH PSILIfDASIAfPSILI AND VARIAfDASIA AND VARIA"),
   (0x1F54, "fPSILI AND OXIAfDASIA AND OXIAfPSILI AND PERISPOMENIfDASIA AND PERISPOMENI"),
   (0x1F59, "bCAPITAL LETTER UPSILON WITH DASIA"),
   (0x1F5B, "fDASIA AND VARIA"),
   (0x1F5D, "hOXIA"),
   (0x1F5F, "hPERISPOMENIbSMALL LETTER OMEGA WITH PSILIfDASIAfPSILI AND VARIA"),
   (0x1F63, "fDASIA AND VARIAfPSILI AND OXIAfDASIA AND OXIAfPSILI AND PERISPOMENI"),
   (0x1F67, "fDASIA AND PERISPOMENIbCAPITAL LETTER OMEGA WITH PSILIfDASIAfPSILI AND VARIA"),
   (0x1F6B, "fDASIA AND VARIAfPSILI AND OXIAfDASIA AND OXIAfPSILI AND PERISPOMENI"),
   (0x1F6F, "fDASIA AND PERISPOMENIbSMALL LETTER ALPHA WITH VARIAfOXIAdEPSILON WITH VARIA"),
   (0x1F73, "fOXIAdETA WITH VARIAfOXIAdIOTA WITH VARIAfOXIAdOMICRON WITH VARIAfOXIA"),
   (0x1F7A, "dUPSILON WITH VARIAfOXIAdOMEGA WITH VARIAfOXIA"),
   (0x1F80, "dALPHA WITH PSILI AND YPOGEGRAMMENIfDASIA AND YPOGEGRAMMENI"),
   (0x1F82, "fPSILI AND VARIA AND YPOGEGRAMMENIfDASIA AND VARIA AND YPOGEGRAMMENI"),
   (0x1F84, "fPSILI AND OXIA AND YPOGEGRAMMENIfDASIA AND OXIA AND YPOGEGRAMMENI"),
   (0x1F86, "fPSILI AND PERISPOMENI AND YPOGEGRAMMENI"),
   (0x1F87, "fDASIA AND PERISPOMENI AND YPOGEGRAMMENI"),
   (0x1F88, "bCAPITAL LETTER ALPHA WITH PSILI AND PROSGEGRAMMENIfDASIA AND PROSGEGRAMMENI"),
   (0x1F8A, "fPSILI AND VARIA AND PROSGEGRAMMENIfDASIA AND VARIA AND PROSGEGRAMMENI"),
   (0x1F8C, "fPSILI AND OXIA AND PROSGEGRAMMENIfDASIA AND OXIA AND PROSGEGRAMMENI"),
   (0x1F8E, "fPSILI AND PERISPOMENI AND PROSGEGRAMMENI"),
   (0x1F8F, "fDASIA AND PERISPOMENI AND PROSGEGRAMMENI"),
   (0x1F90, "bSMALL LETTER ETA WITH PSILI AND YPOGEGRAMMENIfDASIA AND YPOGEGRAMMENI"),
   (0x1F92, "fPSILI AND VARIA AND YPOGEGRAMMENIfDASIA AND VARIA AND YPOGEGRAMMENI"),
   (0x1F94, "fPSILI AND OXIA AND YPOGEGRAMMENIfDASIA AND OXIA AND YPOGEGRAMMENI"),
   (0x1F96, "fPSILI AND PERISPOMENI AND YPOGEGRAMMENI"),
   (0x1F97, "fDASIA AND PERISPOMENI AND YPOGEGRAMMENI"),
   (0x1F98, "bCAPITAL LETTER ETA WITH PSILI AND PROSGEGRAMMENIfDASIA AND PROSGEGRAMMENI"),
   (0x1F9A, "fPSILI AND VARIA AND PROSGEGRAMMENIfDASIA AND VARIA AND PROSGEGRAMMENI"),
   (0x1F9C, "fPSILI AND OXIA AND PROSGEGRAMMENIfDASIA AND OXIA AND PROSGEGRAMMENI"),
   (0x1F9E, "fPSILI AND PERISPOMENI AND PROSGEGRAMMENI"),
   (0x1F9F, "fDASIA AND PERISPOMENI AND PROSGEGRAMMENI"),
   (0x1FA0, "bSMALL LETTER OMEGA WITH PSILI AND YPOGEGRAMMENIfDASIA AND YPOGEGRAMMENI"),
   (0x1FA2, "fPSILI AND VARIA AND YPOGEGRAMMENIfDASIA AND VARIA AND YPOGEGRAMMENI"),
   (0x1FA4, "fPSILI AND OXIA AND YPOGEGRAMMENIfDASIA AND OXIA AND YPOGEGRAMMENI"),
   (0x1FA6, "fPSILI AND PERISPOMENI AND YPOGEGRAMMENI"),
   (0x1FA7, "fDASIA AND PERISPOMENI AND YPOGEGRAMMENI"),
   (0x1FA8, "bCAPITAL LETTER OMEGA WITH PSILI AND PROSGEGRAMMENIfDASIA AND PROSGEGRAMMENI"),
   (0x1FAA, "fPSILI AND VARIA AND PROSGEGRAMMENIfDASIA AND VARIA AND PROSGEGRAMMENI"),
   (0x1FAC, "fPSILI AND OXIA AND PROSGEGRAMMENIfDASIA AND OXIA AND PROSGEGRAMMENI"),
   (0x1FAE, "fPSILI AND PERISPOMENI AND PROSGEGRAMMENI"),
   (0x1FAF, "fDASIA AND PERISPOMENI AND PROSGEGRAMMENIbSMALL LETTER ALPHA WITH VRACHY"),
   (0x1FB1, "fMACRONfVARIA AND YPOGEGRAMMENIfYPOGEGRAMMENIfOXIA AND YPOGEGRAMMENI"),
   (0x1FB6, "fPERISPOMENIfPERISPOMENI AND YPOGEGRAMMENIbCAPITAL LETTER ALPHA WITH VRACHY"),
   (0x1FB9, "fMACRONfVARIAfOXIAfPROSGEGRAMMENIbKORONISbPROSGEGRAMMENIbPSILIbPERISPOMENI"),
   (0x1FC1, "bDIALYTIKA AND PERISPOMENIbSMALL LETTER ETA WITH VARIA AND YPOGEGRAMMENI"),
   (0x1FC3, "fYPOGEGRAMMENIfOXIA AND YPOGEGRAMMENI"),
   (0x1FC6, "fPERISPOMENIfPERISPOMENI AND YPOGEGRAMMENIbCAPITAL LETTER EPSILON WITH VARIA"),
   (0x1FC9, "fOXIAdETA WITH VARIAfOXIAfPROSGEGRAMMENIbPSILI AND VARIAdOXIAdPERISPOMENI"),
   (0x1FD0, "bSMALL LETTER IOTA WITH VRACHYfMACRONfDIALYTIKA AND VARIAhOXIA"),
   (0x1FD6, "fPERISPOMENIfDIALYTIKA AND PERISPOMENIbCAPITAL LETTER IOTA WITH VRACHYfMACRON"),
   (0x1FDA, "fVARIAfOXIA"),
   (0x1FDD, "bDASIA AND VARIAdOXIAdPERISPOMENIbSMALL LETTER UPSILON WITH VRACHYfMACRON"),
   (0x1FE2, "fDIALYTIKA AND VARIAhOXIAdRHO WITH PSILIfDASIAdUPSILON WITH PERISPOMENI"),
   (0x1FE7, "fDIALYTIKA AND PERISPOMENIbCAPITAL LETTER UPSILON WITH VRACHYfMACRONfVARIA"),
   (0x1FEB, "fOXIAdRHO WITH DASIAbDIALYTIKA AND VARIAdOXIAbVARIA"),
   (0x1FF2, "bSMALL LETTER OMEGA WITH VARIA AND YPOGEGRAMMENIfYPOGEGRAMMENI"),
   (0x1FF4, "fOXIA AND YPOGEGRAMMENI"),
   (0x1FF6, "fPERISPOMENIfPERISPOMENI AND YPOGEGRAMMENIbCAPITAL LETTER OMICRON WITH VARIA"),
   (0x1FF9, "fOXIAdOMEGA WITH VARIAfOXIAfPROSGEGRAMMENIbOXIAbDASIA")]

end RecordAudit.Text.CharacterName

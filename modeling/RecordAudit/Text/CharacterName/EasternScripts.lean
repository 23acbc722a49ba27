/-!
# Names of letters and signs of eastern scripts

The characters from U+0590 to U+0FFF, from Hebrew to Tibetan. Each line gives the code point of its
first name; the names of the characters after it follow, each behind a small letter that tells how
many words it shares with the name before it.
-/

namespace RecordAudit.Text.CharacterName

def easternScripts : List (Nat × String) :=
  [(0x0591, "aHEBREW ACCENT ETNAHTAcSEGOLcSHALSHELETcZAQEF QATANdGADOLcTIPEHAcREVIAcZARQA"),
   (0x0599, "cPASHTAcYETIVcTEVIRcGERESHcGERESH MUQDAMcGERSHAYIMcQARNEY PARAcTELISHA GEDOLA"),
   (0x05A1, "cPAZERcATNAH HAFUKHcMUNAHcMAHAPAKHcMERKHAcMERKHA KEFULAcDARGAcQADMA"),
   (0x05A9, "cTELISHA QETANAcYERAH BEN YOMOcOLEcILUYcDEHIcZINORbMARK MASORA CIRCLE"),
   (0x05B0, "bPOINT SHEVAcHATAF SEGOLdPATAHdQAMATScHIRIQcTSEREcSEGOLcPATAHcQAMATScHOLAM"),
   (0x05BA, "cHOLAM HASER FOR VAVcQUBUTScDAGESH OR MAPIQcMETEGbPUNCTUATION MAQAFbPOINT RAFE"),
   (0x05C0, "bPUNCTUATION PASEQbPOINT SHIN DOTcSIN DOTbPUNCTUATION SOF PASUQbMARK UPPER DOT"),
   (0x05C5, "cLOWER DOTbPUNCTUATION NUN HAFUKHAbPOINT QAMATS QATAN"),
   (0x05D0, "bLETTER ALEFcBETcGIMELcDALETcHEcVAVcZAYINcHETcTETcYODcFINAL KAFcKAFcLAMED"),
   (0x05DD, "cFINAL MEMcMEMcFINAL NUNcNUNcSAMEKHcAYINcFINAL PEcPEcFINAL TSADIcTSADIcQOF"),
   (0x05E8, "cRESHcSHINcTAV"),
   (0x05EF, "bYOD TRIANGLEbLIGATURE YIDDISH DOUBLE VAVdVAV YODdDOUBLE YOD"),
   (0x05F3, "bPUNCTUATION GERESHcGERSHAYIM"),
   (0x0600, "aARABIC NUMBER SIGNbSIGN SANAHbFOOTNOTE MARKERbSIGN SAFHAcSAMVAT"),
   (0x0605, "bNUMBER MARK ABOVEaARABIC-INDIC CUBE ROOTcFOURTH ROOTaARABIC RAY"),
   (0x0609, "aARABIC-INDIC PER MILLE SIGNdTEN THOUSAND SIGNaAFGHANI SIGNaARABIC COMMA"),
   (0x060D, "bDATE SEPARATORbPOETIC VERSE SIGNbSIGN MISRAcSALLALLAHOU ALAYHE WASSALLAM"),
   (0x0611, "cALAYHE ASSALLAMcRAHMATULLAH ALAYHEcRADI ALLAHOU ANHUcTAKHALLUSbSMALL HIGH TAH"),
   (0x0616, "dLIGATURE ALEF WITH LAM WITH YEHdZAINcFATHAcDAMMAcKASRAbSEMICOLONbLETTER MARK"),
   (0x061D, "bEND OF TEXT MARKbTRIPLE DOT PUNCTUATION MARKbQUESTION MARK"),
   (0x0620, "bLETTER KASHMIRI YEHcHAMZAcALEF WITH MADDA ABOVEeHAMZA ABOVE"),
   (0x0624, "cWAW WITH HAMZA ABOVEcALEF WITH HAMZA BELOWcYEH WITH HAMZA ABOVEcALEFcBEH"),
   (0x0629, "cTEH MARBUTAcTEHcTHEHcJEEMcHAHcKHAHcDALcTHALcREHcZAINcSEENcSHEENcSADcDADcTAH"),
   (0x0638, "cZAHcAINcGHAINcKEHEH WITH TWO DOTS ABOVEeTHREE DOTS BELOW"),
   (0x063D, "cFARSI YEH WITH INVERTED VfTWO DOTS ABOVEfTHREE DOTS ABOVEbTATWEELbLETTER FEH"),
   (0x0642, "cQAFcKAFcLAMcMEEMcNOONcHEHcWAWcALEF MAKSURAcYEHbFATHATANbDAMMATANbKASRATAN"),
   (0x064E, "bFATHAbDAMMAbKASRAbSHADDAbSUKUNbMADDAH ABOVEbHAMZA ABOVEcBELOWbSUBSCRIPT ALEF"),
   (0x0657, "bINVERTED DAMMAbMARK NOON GHUNNAbZWARAKAYbVOWEL SIGN SMALL V ABOVE"),
   (0x065B, "dINVERTED SMALL V ABOVEdDOT BELOWbREVERSED DAMMAbFATHA WITH TWO DOTS"),
   (0x065F, "bWAVY HAMZA BELOWaARABIC-INDIC DIGIT ZEROdONEdTWOdTHREEdFOURdFIVEdSIXdSEVEN"),
   (0x0668, "dEIGHTdNINEaARABIC PERCENT SIGNbDECIMAL SEPARATORbTHOUSANDS SEPARATOR"),
   (0x066D, "bFIVE POINTED STARbLETTER DOTLESS BEHdQAFcSUPERSCRIPT ALEFcALEF WASLA"),
   (0x0672, "dWITH WAVY HAMZA ABOVEgBELOWcHIGH HAMZAdHAMZA ALEFeWAWcU WITH HAMZA ABOVE"),
   (0x0678, "cHIGH HAMZA YEHcTTEHcTTEHEHcBEEHcTEH WITH RINGeTHREE DOTS ABOVE DOWNWARDScPEH"),
   (0x067F, "cTEHEHcBEHEHcHAH WITH HAMZA ABOVEeTWO DOTS VERTICAL ABOVEcNYEHcDYEH"),
   (0x0685, "cHAH WITH THREE DOTS ABOVEcTCHEHcTCHEHEHcDDALcDAL WITH RINGeDOT BELOW"),
   (0x068B, "fBELOW AND SMALL TAHcDAHALcDDAHALcDULcDAL WITH THREE DOTS ABOVE DOWNWARDS"),
   (0x0690, "eFOUR DOTS ABOVEcRREHcREH WITH SMALL VeRINGeDOT BELOWeSMALL V BELOW"),
   (0x0696, "eDOT BELOW AND DOT ABOVEeTWO DOTS ABOVEcJEHcREH WITH FOUR DOTS ABOVE"),
   (0x069A, "cSEEN WITH DOT BELOW AND DOT ABOVEeTHREE DOTS BELOWgBELOW AND THREE DOTS ABOVE"),
   (0x069D, "cSAD WITH TWO DOTS BELOWeTHREE DOTS ABOVEcTAH WITH THREE DOTS ABOVE"),
   (0x06A0, "cAIN WITH THREE DOTS ABOVEcDOTLESS FEHcFEH WITH DOT MOVED BELOWfBELOWcVEH"),
   (0x06A5, "cFEH WITH THREE DOTS BELOWcPEHEHcQAF WITH DOT ABOVEeTHREE DOTS ABOVEcKEHEH"),
   (0x06AA, "cSWASH KAFcKAF WITH RINGeDOT ABOVEcNGcKAF WITH THREE DOTS BELOWcGAF"),
   (0x06B0, "cGAF WITH RINGcNGOEHcGAF WITH TWO DOTS BELOWcGUEHcGAF WITH THREE DOTS ABOVE"),
   (0x06B5, "cLAM WITH SMALL VeDOT ABOVEeTHREE DOTS ABOVEgBELOWcNOON WITH DOT BELOWdGHUNNA"),
   (0x06BB, "cRNOONcNOON WITH RINGeTHREE DOTS ABOVEcHEH DOACHASHMEEcTCHEH WITH DOT ABOVE"),
   (0x06C0, "cHEH WITH YEH ABOVEdGOALdGOAL WITH HAMZA ABOVEcTEH MARBUTA GOALcWAW WITH RING"),
   (0x06C5, "cKIRGHIZ OEcOEcUcYUcKIRGHIZ YUcWAW WITH TWO DOTS ABOVEcVEcFARSI YEH"),
   (0x06CD, "cYEH WITH TAILeSMALL VcWAW WITH DOT ABOVEcEcYEH WITH THREE DOTS BELOWdBARREE"),
   (0x06D3, "dBARREE WITH HAMZA ABOVEbFULL STOPbLETTER AE"),
   (0x06D6, "bSMALL HIGH LIGATURE SAD WITH LAM WITH ALEF MAKSURA"),
   (0x06D7, "eQAF WITH LAM WITH ALEF MAKSURAdMEEM INITIAL FORMdLAM ALEFdJEEMdTHREE DOTS"),
   (0x06DC, "dSEENbEND OF AYAHbSTART OF RUB EL HIZBbSMALL HIGH ROUNDED ZERO"),
   (0x06E0, "dUPRIGHT RECTANGULAR ZEROdDOTLESS HEAD OF KHAHdMEEM ISOLATED FORMcLOW SEEN"),
   (0x06E4, "cHIGH MADDAcWAWcYEHcHIGH YEHdNOONbPLACE OF SAJDAHbEMPTY CENTRE LOW STOP"),
   (0x06EB, "dHIGH STOPbROUNDED HIGH STOP WITH FILLED CENTREbSMALL LOW MEEM"),
   (0x06EE, "bLETTER DAL WITH INVERTED VcREH WITH INVERTED V"),
   (0x06F0, "aEXTENDED ARABIC-INDIC DIGIT ZEROeONEeTWOeTHREEeFOUReFIVEeSIXeSEVENeEIGHTeNINE"),
   (0x06FA, "aARABIC LETTER SHEEN WITH DOT BELOWcDAD WITH DOT BELOWcGHAIN WITH DOT BELOW"),
   (0x06FD, "bSIGN SINDHI AMPERSANDdPOSTPOSITION MENbLETTER HEH WITH INVERTED V"),
   (0x0700, "aSYRIAC END OF PARAGRAPHbSUPRALINEAR FULL STOPbSUBLINEAR FULL STOP"),
   (0x0703, "bSUPRALINEAR COLONbSUBLINEAR COLONbHORIZONTAL COLONbCOLON SKEWED LEFTdRIGHT"),
   (0x0708, "bSUPRALINEAR COLON SKEWED LEFTbSUBLINEAR COLON SKEWED RIGHTbCONTRACTION"),
   (0x070B, "bHARKLEAN OBELUScMETOBELUScASTERISCUS"),
   (0x070F, "bABBREVIATION MARKbLETTER ALAPHcSUPERSCRIPT ALAPHcBETHcGAMALcGAMAL GARSHUNI"),
   (0x0715, "cDALATHcDOTLESS DALATH RISHcHEcWAWcZAINcHETHcTETHcTETH GARSHUNIcYUDHcYUDH HE"),
   (0x071F, "cKAPHcLAMADHcMIMcNUNcSEMKATHcFINAL SEMKATHcEcPEcREVERSED PEcSADHEcQAPHcRISH"),
   (0x072B, "cSHINcTAWcPERSIAN BHETHdGHAMALdDHALATHbPTHAHA ABOVEcBELOWcDOTTEDbZQAPHA ABOVE"),
   (0x0734, "cBELOWcDOTTEDbRBASA ABOVEcBELOWbDOTTED ZLAMA HORIZONTALdANGULARbHBASA ABOVE"),
   (0x073B, "cBELOWbHBASA-ESASA DOTTEDbESASA ABOVEcBELOWbRWAHAbFEMININE DOTbQUSHSHAYA"),
   (0x0742, "bRUKKAKHAbTWO VERTICAL DOTS ABOVEeBELOWbTHREE DOTS ABOVEdBELOW"),
   (0x0747, "bOBLIQUE LINE ABOVEdBELOWbMUSICbBARREKH"),
   (0x074D, "bLETTER SOGDIAN ZHAINdKHAPHdFE"),
   (0x0750, "aARABIC LETTER BEH WITH THREE DOTS HORIZONTALLY BELOW"),
   (0x0751, "eDOT BELOW AND THREE DOTS ABOVEeTHREE DOTS POINTING UPWARDS BELOW"),
   (0x0753, "iBELOW AND TWO DOTS ABOVEeTWO DOTS BELOW AND DOT ABOVEeINVERTED SMALL V BELOW"),
   (0x0756, "eSMALL VcHAH WITH TWO DOTS ABOVEeTHREE DOTS POINTING UPWARDS BELOW"),
   (0x0759, "cDAL WITH TWO DOTS VERTICALLY BELOW AND SMALL TAHeINVERTED SMALL V BELOW"),
   (0x075B, "cREH WITH STROKEcSEEN WITH FOUR DOTS ABOVEcAIN WITH TWO DOTS ABOVE"),
   (0x075E, "eTHREE DOTS POINTING DOWNWARDS ABOVEeTWO DOTS VERTICALLY ABOVE"),
   (0x0760, "cFEH WITH TWO DOTS BELOWeTHREE DOTS POINTING UPWARDS BELOW"),
   (0x0762, "cKEHEH WITH DOT ABOVEeTHREE DOTS ABOVEgPOINTING UPWARDS BELOW"),
   (0x0765, "cMEEM WITH DOT ABOVEfBELOWcNOON WITH TWO DOTS BELOWeSMALL TAHfVcLAM WITH BAR"),
   (0x076B, "cREH WITH TWO DOTS VERTICALLY ABOVEeHAMZA ABOVE"),
   (0x076D, "cSEEN WITH TWO DOTS VERTICALLY ABOVEcHAH WITH SMALL ARABIC LETTER TAH BELOW"),
   (0x076F, "iAND TWO DOTScSEEN WITH SMALL ARABIC LETTER TAH AND TWO DOTS"),
   (0x0771, "cREH WITH SMALL ARABIC LETTER TAH AND TWO DOTS"),
   (0x0772, "cHAH WITH SMALL ARABIC LETTER TAH ABOVE"),
   (0x0773, "cALEF WITH EXTENDED ARABIC-INDIC DIGIT TWO ABOVEiTHREE ABOVE"),
   (0x0775, "cFARSI YEH WITH EXTENDED ARABIC-INDIC DIGIT TWO ABOVEjTHREE ABOVEjFOUR BELOW"),
   (0x0778, "cWAW WITH EXTENDED ARABIC-INDIC DIGIT TWO ABOVEiTHREE ABOVE"),
   (0x077A, "cYEH BARREE WITH EXTENDED ARABIC-INDIC DIGIT TWO ABOVEjTHREE ABOVE"),
   (0x077C, "cHAH WITH EXTENDED ARABIC-INDIC DIGIT FOUR BELOW"),
   (0x077D, "cSEEN WITH EXTENDED ARABIC-INDIC DIGIT FOUR ABOVEeINVERTED V"),
   (0x077F, "cKAF WITH TWO DOTS ABOVEaTHAANA LETTER HAAcSHAVIYANIcNOONUcRAAcBAAcLHAVIYANI"),
   (0x0786, "cKAAFUcALIFUcVAAVUcMEEMUcFAAFUcDHAALUcTHAAcLAAMUcGAAFUcGNAVIYANIcSEENU"),
   (0x0791, "cDAVIYANIcZAVIYANIcTAVIYANIcYAAcPAVIYANIcJAVIYANIcCHAVIYANIcTTAAcHHAAcKHAA"),
   (0x079B, "cTHAALUcZAAcSHEENUcSAADHUcDAADHUcTOcZOcAINUcGHAINUcQAAFUcWAAVUbABAFILI"),
   (0x07A7, "bAABAAFILIbIBIFILIbEEBEEFILIbUBUFILIbOOBOOFILIbEBEFILIbEYBEYFILIbOBOFILI"),
   (0x07AF, "bOABOAFILIbSUKUNbLETTER NAA"),
   (0x07C0, "aNKO DIGIT ZEROcONEcTWOcTHREEcFOURcFIVEcSIXcSEVENcEIGHTcNINEbLETTER AcEEcIcEcU"),
   (0x07CF, "cOOcOcDAGBASINNAcNcBAcPAcTAcJAcCHAcDAcRAcRRAcSAcGBAcFAcKAcLAcNA WOLOSOcMAcNYA"),
   (0x07E3, "cNAcHAcWAcYAcNYA WOLOSOcJONA JAdCHAdRAbCOMBINING SHORT HIGH TONEdLOW TONE"),
   (0x07ED, "dRISING TONEcLONG DESCENDING TONEdHIGH TONEdLOW TONEdRISING TONE"),
   (0x07F2, "cNASALIZATION MARKcDOUBLE DOT ABOVEbHIGH TONE APOSTROPHEbLOW TONE APOSTROPHE"),
   (0x07F6, "bSYMBOL OO DENNENcGBAKURUNENbCOMMAbEXCLAMATION MARKbLAJANYALAN"),
   (0x07FD, "bDANTAYALANbDOROME SIGNbTAMAN SIGNaSAMARITAN LETTER ALAFcBITcGAMANcDALATcIY"),
   (0x0805, "cBAAcZENcITcTITcYUTcKAAFcLABATcMIMcNUNcSINGAATcINcFIcTSAADIYcQUFcRISHcSHAN"),
   (0x0815, "cTAAFbMARK INcIN-ALAFcOCCLUSIONcDAGESHbMODIFIER LETTER EPENTHETIC YUT"),
   (0x081B, "bMARK EPENTHETIC YUTbVOWEL SIGN LONG EdEdOVERLONG AAdLONG AAdAAdOVERLONG A"),
   (0x0822, "dLONG AdAbMODIFIER LETTER SHORT AbVOWEL SIGN SHORT AdLONG UdU"),
   (0x0828, "bMODIFIER LETTER IbVOWEL SIGN LONG IdIdOdSUKUNbMARK NEQUDAA"),
   (0x0830, "bPUNCTUATION NEQUDAAcAFSAAQcANGEDcBAUcATMAAUcSHIYYAALAAbABBREVIATION MARK"),
   (0x0837, "bPUNCTUATION MELODIC QITSAcZIQAAcQITSAcZAEFcTURUcARKAANUcSOF MASHFAATcANNAAU"),
   (0x0840, "aMANDAIC LETTER HALQAcABcAGcADcAHcUSHENNAcAZcITcATTcAKSAcAKcALcAMcANcAScINcAP"),
   (0x0851, "cASZcAQcARcASHcATcDUSHENNAcKADcAINbAFFRICATION MARKbVOCALIZATION MARK"),
   (0x085B, "bGEMINATION MARK"),
   (0x085E, "bPUNCTUATION"),
   (0x0860, "aSYRIAC LETTER MALAYALAM NGAdJAdNYAdTTAdNNAdNNNAdBHAdRAdLLAdLLLAdSSA"),
   (0x0870, "aARABIC LETTER ALEF WITH ATTACHED FATHAfTOP RIGHT FATHAeRIGHT MIDDLE STROKE"),
   (0x0873, "eLEFT MIDDLE STROKEeATTACHED KASRAfBOTTOM RIGHT KASRAfROUND DOT ABOVE"),
   (0x0877, "fRIGHT ROUND DOTfLEFT ROUND DOTfROUND DOT BELOWeDOT ABOVE"),
   (0x087B, "eATTACHED TOP RIGHT FATHA AND DOT ABOVEeRIGHT MIDDLE STROKE AND DOT ABOVE"),
   (0x087D, "eATTACHED BOTTOM RIGHT KASRA AND DOT ABOVEfTOP RIGHT FATHA AND LEFT RING"),
   (0x087F, "eRIGHT MIDDLE STROKE AND LEFT RINGeATTACHED BOTTOM RIGHT KASRA AND LEFT RING"),
   (0x0881, "fRIGHT HAMZAfLEFT HAMZAbTATWEEL WITH OVERSTRUCK HAMZAeWAWdTWO DOTS BELOW"),
   (0x0886, "bLETTER THIN YEHbBASELINE ROUND DOTbRAISED ROUND DOT"),
   (0x0889, "bLETTER NOON WITH INVERTED SMALL VcHAH WITH INVERTED SMALL V BELOW"),
   (0x088B, "cTAH WITH DOT BELOWeTHREE DOTS BELOWcKEHEH WITH TWO DOTS VERTICALLY BELOW"),
   (0x088E, "bVERTICAL TAIL"),
   (0x0890, "bPOUND MARK ABOVEbPIASTRE MARK ABOVE"),
   (0x0898, "bSMALL HIGH WORD AL-JUZcLOW WORD ISHMAAMeIMAALAeTASHEELbMADDA WAAJIB"),
   (0x089D, "bSUPERSCRIPT ALEF MOKHASSASbDOUBLED MADDAbHALF MADDA OVER MADDA"),
   (0x08A0, "bLETTER BEH WITH SMALL V BELOWeHAMZA ABOVEcJEEM WITH TWO DOTS ABOVE"),
   (0x08A3, "cTAH WITH TWO DOTS ABOVEcFEH WITH DOT BELOW AND THREE DOTS ABOVE"),
   (0x08A5, "cQAF WITH DOT BELOWcLAM WITH DOUBLE BARcMEEM WITH THREE DOTS ABOVE"),
   (0x08A8, "cYEH WITH TWO DOTS BELOW AND HAMZA ABOVEiDOT ABOVEcREH WITH LOOP"),
   (0x08AB, "cWAW WITH DOT WITHINcROHINGYA YEHcLOW ALEFcDAL WITH THREE DOTS BELOW"),
   (0x08AF, "cSAD WITH THREE DOTS BELOWcGAF WITH INVERTED STROKEcSTRAIGHT WAW"),
   (0x08B2, "cZAIN WITH INVERTED V ABOVEcAIN WITH THREE DOTS BELOWcKAF WITH DOT BELOW"),
   (0x08B5, "cQAF WITH DOT BELOW AND NO DOTS ABOVEcBEH WITH SMALL MEEM ABOVE"),
   (0x08B7, "cPEH WITH SMALL MEEM ABOVEcTEH WITH SMALL TEH ABOVEcREH WITH SMALL NOON ABOVE"),
   (0x08BA, "cYEH WITH TWO DOTS BELOW AND SMALL NOON ABOVEcAFRICAN FEHdQAFdNOON"),
   (0x08BE, "cPEH WITH SMALL VcTEH WITH SMALL VcTTEH WITH SMALL VcTCHEH WITH SMALL V"),
   (0x08C2, "cKEHEH WITH SMALL VcGHAIN WITH THREE DOTS ABOVE"),
   (0x08C4, "cAFRICAN QAF WITH THREE DOTS ABOVEcJEEM WITH THREE DOTS ABOVEgBELOW"),
   (0x08C7, "cLAM WITH SMALL ARABIC LETTER TAH ABOVEcGRAFbSMALL FARSI YEHcHIGH FARSI YEH"),
   (0x08CB, "dYEH BARREE WITH TWO DOTS BELOWdWORD SAHdZAHbLARGE ROUND DOT ABOVEeBELOW"),
   (0x08D0, "bSUKUN BELOWbLARGE CIRCLE BELOWcROUND DOT INSIDE CIRCLE BELOWbSMALL LOW WAW"),
   (0x08D4, "cHIGH WORD AR-RUBdSADdAINdQAFdNOON WITH KASRAcLOW NOON WITH KASRA"),
   (0x08DA, "cHIGH WORD ATH-THALATHAeAS-SAJDAeAN-NISFeSAKTAeQIFeWAQFAdFOOTNOTE MARKER"),
   (0x08E1, "dSIGN SAFHAbDISPUTED END OF AYAHbTURNED DAMMA BELOWbCURLY FATHAcDAMMAcKASRA"),
   (0x08E7, "cFATHATANcDAMMATANcKASRATANbTONE ONE DOT ABOVEcTWO DOTS ABOVEcLOOP ABOVE"),
   (0x08ED, "cONE DOT BELOWcTWO DOTS BELOWcLOOP BELOWbOPEN FATHATANcDAMMATANcKASRATAN"),
   (0x08F3, "bSMALL HIGH WAWbFATHA WITH RINGdDOT ABOVEbKASRA WITH DOT BELOW"),
   (0x08F7, "bLEFT ARROWHEAD ABOVEbRIGHT ARROWHEAD ABOVEbLEFT ARROWHEAD BELOW"),
   (0x08FA, "bRIGHT ARROWHEAD BELOWbDOUBLE RIGHT ARROWHEAD ABOVEeABOVE WITH DOT"),
   (0x08FD, "bRIGHT ARROWHEAD ABOVE WITH DOTbDAMMA WITH DOTbMARK SIDEWAYS NOON GHUNNA"),
   (0x0900, "aDEVANAGARI SIGN INVERTED CANDRABINDUcCANDRABINDUcANUSVARAcVISARGA"),
   (0x0904, "bLETTER SHORT AcAcAAcIcIIcUcUUcVOCALIC RdLcCANDRA EcSHORT EcEcAIcCANDRA O"),
   (0x0912, "cSHORT OcOcAUcKAcKHAcGAcGHAcNGAcCAcCHAcJAcJHAcNYAcTTAcTTHAcDDAcDDHAcNNAcTAcTHA"),
   (0x0926, "cDAcDHAcNAcNNNAcPAcPHAcBAcBHAcMAcYAcRAcRRAcLAcLLAcLLLAcVAcSHAcSSAcSAcHA"),
   (0x093A, "bVOWEL SIGN OEdOOEbSIGN NUKTAcAVAGRAHAbVOWEL SIGN AAdIdIIdUdUUdVOCALIC ReRR"),
   (0x0945, "dCANDRA EdSHORT EdEdAIdCANDRA OdSHORT OdOdAUbSIGN VIRAMA"),
   (0x094E, "bVOWEL SIGN PRISHTHAMATRA EdAWbOMbSTRESS SIGN UDATTAdANUDATTAbGRAVE ACCENT"),
   (0x0954, "bACUTE ACCENTbVOWEL SIGN CANDRA LONG EdUEdUUEbLETTER QAcKHHAcGHHAcZAcDDDHAcRHA"),
   (0x095E, "cFAcYYAcVOCALIC RRdLLbVOWEL SIGN VOCALIC LeLLbDANDAbDOUBLE DANDAbDIGIT ZERO"),
   (0x0967, "cONEcTWOcTHREEcFOURcFIVEcSIXcSEVENcEIGHTcNINEbABBREVIATION SIGN"),
   (0x0971, "bSIGN HIGH SPACING DOTbLETTER CANDRA AcOEcOOEcAWcUEcUUEcMARWARI DDAcZHA"),
   (0x097A, "cHEAVY YAcGGAcJJAcGLOTTAL STOPcDDDAcBBAaBENGALI ANJIbSIGN CANDRABINDUcANUSVARA"),
   (0x0983, "cVISARGA"),
   (0x0985, "bLETTER AcAAcIcIIcUcUUcVOCALIC RdL"),
   (0x098F, "cEcAI"),
   (0x0993, "cOcAUcKAcKHAcGAcGHAcNGAcCAcCHAcJAcJHAcNYAcTTAcTTHAcDDAcDDHAcNNAcTAcTHAcDAcDHA"),
   (0x09A8, "cNA"),
   (0x09AA, "cPAcPHAcBAcBHAcMAcYAcRA"),
   (0x09B2, "cLA"),
   (0x09B6, "cSHAcSSAcSAcHA"),
   (0x09BC, "bSIGN NUKTAcAVAGRAHAbVOWEL SIGN AAdIdIIdUdUUdVOCALIC ReRR"),
   (0x09C7, "dEdAI"),
   (0x09CB, "dOdAUbSIGN VIRAMAbLETTER KHANDA TA"),
   (0x09D7, "bAU LENGTH MARK"),
   (0x09DC, "bLETTER RRAcRHA"),
   (0x09DF, "cYYAcVOCALIC RRdLLbVOWEL SIGN VOCALIC LeLL"),
   (0x09E6, "bDIGIT ZEROcONEcTWOcTHREEcFOURcFIVEcSIXcSEVENcEIGHTcNINE"),
   (0x09F0, "bLETTER RA WITH MIDDLE DIAGONALeLOWER DIAGONALbRUPEE MARKcSIGN"),
   (0x09F4, "bCURRENCY NUMERATOR ONEdTWOdTHREEdFOURdONE LESS THAN THE DENOMINATOR"),
   (0x09F9, "cDENOMINATOR SIXTEENbISSHARbGANDA MARKbLETTER VEDIC ANUSVARAbABBREVIATION SIGN"),
   (0x09FE, "bSANDHI MARK"),
   (0x0A01, "aGURMUKHI SIGN ADAK BINDIcBINDIcVISARGA"),
   (0x0A05, "bLETTER AcAAcIcIIcUcUU"),
   (0x0A0F, "cEEcAI"),
   (0x0A13, "cOOcAUcKAcKHAcGAcGHAcNGAcCAcCHAcJAcJHAcNYAcTTAcTTHAcDDAcDDHAcNNAcTAcTHAcDAcDHA"),
   (0x0A28, "cNA"),
   (0x0A2A, "cPAcPHAcBAcBHAcMAcYAcRA"),
   (0x0A32, "cLAcLLA"),
   (0x0A35, "cVAcSHA"),
   (0x0A38, "cSAcHA"),
   (0x0A3C, "bSIGN NUKTA"),
   (0x0A3E, "bVOWEL SIGN AAdIdIIdUdUU"),
   (0x0A47, "dEEdAI"),
   (0x0A4B, "dOOdAUbSIGN VIRAMA"),
   (0x0A51, "cUDAAT"),
   (0x0A59, "bLETTER KHHAcGHHAcZAcRRA"),
   (0x0A5E, "cFA"),
   (0x0A66, "bDIGIT ZEROcONEcTWOcTHREEcFOURcFIVEcSIXcSEVENcEIGHTcNINEbTIPPIbADDAKbIRIbURA"),
   (0x0A74, "bEK ONKARbSIGN YAKASHbABBREVIATION SIGN"),
   (0x0A81, "aGUJARATI SIGN CANDRABINDUcANUSVARAcVISARGA"),
   (0x0A85, "bLETTER AcAAcIcIIcUcUUcVOCALIC RdLbVOWEL CANDRA E"),
   (0x0A8F, "bLETTER EcAIbVOWEL CANDRA O"),
   (0x0A93, "bLETTER OcAUcKAcKHAcGAcGHAcNGAcCAcCHAcJAcJHAcNYAcTTAcTTHAcDDAcDDHAcNNAcTAcTHA"),
   (0x0AA6, "cDAcDHAcNA"),
   (0x0AAA, "cPAcPHAcBAcBHAcMAcYAcRA"),
   (0x0AB2, "cLAcLLA"),
   (0x0AB5, "cVAcSHAcSSAcSAcHA"),
   (0x0ABC, "bSIGN NUKTAcAVAGRAHAbVOWEL SIGN AAdIdIIdUdUUdVOCALIC ReRRdCANDRA E"),
   (0x0AC7, "dEdAIdCANDRA O"),
   (0x0ACB, "dOdAUbSIGN VIRAMA"),
   (0x0AD0, "bOM"),
   (0x0AE0, "bLETTER VOCALIC RRdLLbVOWEL SIGN VOCALIC LeLL"),
   (0x0AE6, "bDIGIT ZEROcONEcTWOcTHREEcFOURcFIVEcSIXcSEVENcEIGHTcNINEbABBREVIATION SIGN"),
   (0x0AF1, "bRUPEE SIGN"),
   (0x0AF9, "bLETTER ZHAbSIGN SUKUNcSHADDAcMADDAHcTHREE-DOT NUKTA ABOVEcCIRCLE NUKTA ABOVE"),
   (0x0AFF, "cTWO-CIRCLE NUKTA ABOVE"),
   (0x0B01, "aORIYA SIGN CANDRABINDUcANUSVARAcVISARGA"),
   (0x0B05, "bLETTER AcAAcIcIIcUcUUcVOCALIC RdL"),
   (0x0B0F, "cEcAI"),
   (0x0B13, "cOcAUcKAcKHAcGAcGHAcNGAcCAcCHAcJAcJHAcNYAcTTAcTTHAcDDAcDDHAcNNAcTAcTHAcDAcDHA"),
   (0x0B28, "cNA"),
   (0x0B2A, "cPAcPHAcBAcBHAcMAcYAcRA"),
   (0x0B32, "cLAcLLA"),
   (0x0B35, "cVAcSHAcSSAcSAcHA"),
   (0x0B3C, "bSIGN NUKTAcAVAGRAHAbVOWEL SIGN AAdIdIIdUdUUdVOCALIC ReRR"),
   (0x0B47, "dEdAI"),
   (0x0B4B, "dOdAUbSIGN VIRAMA"),
   (0x0B55, "cOVERLINEbAI LENGTH MARKbAU LENGTH MARK"),
   (0x0B5C, "bLETTER RRAcRHA"),
   (0x0B5F, "cYYAcVOCALIC RRdLLbVOWEL SIGN VOCALIC LeLL"),
   (0x0B66, "bDIGIT ZEROcONEcTWOcTHREEcFOURcFIVEcSIXcSEVENcEIGHTcNINEbISSHARbLETTER WA"),
   (0x0B72, "bFRACTION ONE QUARTERdHALFcTHREE QUARTERScONE SIXTEENTHdEIGHTH"),
   (0x0B77, "cTHREE SIXTEENTHS"),
   (0x0B82, "aTAMIL SIGN ANUSVARAcVISARGA"),
   (0x0B85, "bLETTER AcAAcIcIIcUcUU"),
   (0x0B8E, "cEcEEcAI"),
   (0x0B92, "cOcOOcAUcKA"),
   (0x0B99, "cNGAcCA"),
   (0x0B9C, "cJA"),
   (0x0B9E, "cNYAcTTA"),
   (0x0BA3, "cNNAcTA"),
   (0x0BA8, "cNAcNNNAcPA"),
   (0x0BAE, "cMAcYAcRAcRRAcLAcLLAcLLLAcVAcSHAcSSAcSAcHA"),
   (0x0BBE, "bVOWEL SIGN AAdIdIIdUdUU"),
   (0x0BC6, "dEdEEdAI"),
   (0x0BCA, "dOdOOdAUbSIGN VIRAMA"),
   (0x0BD0, "bOM"),
   (0x0BD7, "bAU LENGTH MARK"),
   (0x0BE6, "bDIGIT ZEROcONEcTWOcTHREEcFOURcFIVEcSIXcSEVENcEIGHTcNINEbNUMBER TEN"),
   (0x0BF1, "cONE HUNDREDdTHOUSANDbDAY SIGNbMONTH SIGNbYEAR SIGNbDEBIT SIGNbCREDIT SIGN"),
   (0x0BF8, "bAS ABOVE SIGNbRUPEE SIGNbNUMBER SIGN"),
   (0x0C00, "aTELUGU SIGN COMBINING CANDRABINDU ABOVEcCANDRABINDUcANUSVARAcVISARGA"),
   (0x0C04, "cCOMBINING ANUSVARA ABOVEbLETTER AcAAcIcIIcUcUUcVOCALIC RdL"),
   (0x0C0E, "cEcEEcAI"),
   (0x0C12, "cOcOOcAUcKAcKHAcGAcGHAcNGAcCAcCHAcJAcJHAcNYAcTTAcTTHAcDDAcDDHAcNNAcTAcTHAcDA"),
   (0x0C27, "cDHAcNA"),
   (0x0C2A, "cPAcPHAcBAcBHAcMAcYAcRAcRRAcLAcLLAcLLLAcVAcSHAcSSAcSAcHA"),
   (0x0C3C, "bSIGN NUKTAcAVAGRAHAbVOWEL SIGN AAdIdIIdUdUUdVOCALIC ReRR"),
   (0x0C46, "dEdEEdAI"),
   (0x0C4A, "dOdOOdAUbSIGN VIRAMA"),
   (0x0C55, "bLENGTH MARKbAI LENGTH MARK"),
   (0x0C58, "bLETTER TSAcDZAcRRRA"),
   (0x0C5D, "cNAKAARA POLLU"),
   (0x0C60, "cVOCALIC RRdLLbVOWEL SIGN VOCALIC LeLL"),
   (0x0C66, "bDIGIT ZEROcONEcTWOcTHREEcFOURcFIVEcSIXcSEVENcEIGHTcNINE"),
   (0x0C77, "bSIGN SIDDHAMbFRACTION DIGIT ZERO FOR ODD POWERS OF FOUR"),
   (0x0C79, "dONE FOR ODD POWERS OF FOURdTWO FOR ODD POWERS OF FOUR"),
   (0x0C7B, "dTHREE FOR ODD POWERS OF FOURdONE FOR EVEN POWERS OF FOUR"),
   (0x0C7D, "dTWO FOR EVEN POWERS OF FOURdTHREE FOR EVEN POWERS OF FOURbSIGN TUUMU"),
   (0x0C80, "aKANNADA SIGN SPACING CANDRABINDUcCANDRABINDUcANUSVARAcVISARGAcSIDDHAM"),
   (0x0C85, "bLETTER AcAAcIcIIcUcUUcVOCALIC RdL"),
   (0x0C8E, "cEcEEcAI"),
   (0x0C92, "cOcOOcAUcKAcKHAcGAcGHAcNGAcCAcCHAcJAcJHAcNYAcTTAcTTHAcDDAcDDHAcNNAcTAcTHAcDA"),
   (0x0CA7, "cDHAcNA"),
   (0x0CAA, "cPAcPHAcBAcBHAcMAcYAcRAcRRAcLAcLLA"),
   (0x0CB5, "cVAcSHAcSSAcSAcHA"),
   (0x0CBC, "bSIGN NUKTAcAVAGRAHAbVOWEL SIGN AAdIdIIdUdUUdVOCALIC ReRR"),
   (0x0CC6, "dEdEEdAI"),
   (0x0CCA, "dOdOOdAUbSIGN VIRAMA"),
   (0x0CD5, "bLENGTH MARKbAI LENGTH MARK"),
   (0x0CDD, "bLETTER NAKAARA POLLUcFA"),
   (0x0CE0, "cVOCALIC RRdLLbVOWEL SIGN VOCALIC LeLL"),
   (0x0CE6, "bDIGIT ZEROcONEcTWOcTHREEcFOURcFIVEcSIXcSEVENcEIGHTcNINE"),
   (0x0CF1, "bSIGN JIHVAMULIYAcUPADHMANIYA"),
   (0x0D00, "aMALAYALAM SIGN COMBINING ANUSVARA ABOVEcCANDRABINDUcANUSVARAcVISARGA"),
   (0x0D04, "bLETTER VEDIC ANUSVARAcAcAAcIcIIcUcUUcVOCALIC RdL"),
   (0x0D0E, "cEcEEcAI"),
   (0x0D12, "cOcOOcAUcKAcKHAcGAcGHAcNGAcCAcCHAcJAcJHAcNYAcTTAcTTHAcDDAcDDHAcNNAcTAcTHAcDA"),
   (0x0D27, "cDHAcNAcNNNAcPAcPHAcBAcBHAcMAcYAcRAcRRAcLAcLLAcLLLAcVAcSHAcSSAcSAcHAcTTTA"),
   (0x0D3B, "bSIGN VERTICAL BAR VIRAMAcCIRCULAR VIRAMAcAVAGRAHAbVOWEL SIGN AAdIdIIdUdUU"),
   (0x0D43, "dVOCALIC ReRR"),
   (0x0D46, "dEdEEdAI"),
   (0x0D4A, "dOdOOdAUbSIGN VIRAMAbLETTER DOT REPHbSIGN PARA"),
   (0x0D54, "bLETTER CHILLU MdYdLLLbAU LENGTH MARKbFRACTION ONE ONE-HUNDRED-AND-SIXTIETH"),
   (0x0D59, "dFORTIETHcTHREE EIGHTIETHScONE TWENTIETHdTENTHcTHREE TWENTIETHScONE FIFTH"),
   (0x0D5F, "bLETTER ARCHAIC IIcVOCALIC RRdLLbVOWEL SIGN VOCALIC LeLL"),
   (0x0D66, "bDIGIT ZEROcONEcTWOcTHREEcFOURcFIVEcSIXcSEVENcEIGHTcNINEbNUMBER TEN"),
   (0x0D71, "cONE HUNDREDdTHOUSANDbFRACTION ONE QUARTERdHALFcTHREE QUARTERScONE SIXTEENTH"),
   (0x0D77, "dEIGHTHcTHREE SIXTEENTHSbDATE MARKbLETTER CHILLU NNdNdRRdLdLLdK"),
   (0x0D81, "aSINHALA SIGN CANDRABINDUcANUSVARAYAcVISARGAYA"),
   (0x0D85, "bLETTER AYANNAcAAYANNAcAEYANNAcAEEYANNAcIYANNAcIIYANNAcUYANNAcUUYANNAcIRUYANNA"),
   (0x0D8E, "cIRUUYANNAcILUYANNAcILUUYANNAcEYANNAcEEYANNAcAIYANNAcOYANNAcOOYANNAcAUYANNA"),
   (0x0D9A, "cALPAPRAANA KAYANNAcMAHAAPRAANA KAYANNAcALPAPRAANA GAYANNAcMAHAAPRAANA GAYANNA"),
   (0x0D9E, "cKANTAJA NAASIKYAYAcSANYAKA GAYANNAcALPAPRAANA CAYANNAcMAHAAPRAANA CAYANNA"),
   (0x0DA2, "cALPAPRAANA JAYANNAcMAHAAPRAANA JAYANNAcTAALUJA NAASIKYAYA"),
   (0x0DA5, "dSANYOOGA NAAKSIKYAYAcSANYAKA JAYANNAcALPAPRAANA TTAYANNAcMAHAAPRAANA TTAYANNA"),
   (0x0DA9, "cALPAPRAANA DDAYANNAcMAHAAPRAANA DDAYANNAcMUURDHAJA NAYANNAcSANYAKA DDAYANNA"),
   (0x0DAD, "cALPAPRAANA TAYANNAcMAHAAPRAANA TAYANNAcALPAPRAANA DAYANNAcMAHAAPRAANA DAYANNA"),
   (0x0DB1, "cDANTAJA NAYANNA"),
   (0x0DB3, "cSANYAKA DAYANNAcALPAPRAANA PAYANNAcMAHAAPRAANA PAYANNAcALPAPRAANA BAYANNA"),
   (0x0DB7, "cMAHAAPRAANA BAYANNAcMAYANNAcAMBA BAYANNAcYAYANNAcRAYANNA"),
   (0x0DBD, "cDANTAJA LAYANNA"),
   (0x0DC0, "cVAYANNAcTAALUJA SAYANNAcMUURDHAJA SAYANNAcDANTAJA SAYANNAcHAYANNA"),
   (0x0DC5, "cMUURDHAJA LAYANNAcFAYANNA"),
   (0x0DCA, "bSIGN AL-LAKUNA"),
   (0x0DCF, "bVOWEL SIGN AELA-PILLAdKETTI AEDA-PILLAdDIGA AEDA-PILLAdKETTI IS-PILLA"),
   (0x0DD3, "dDIGA IS-PILLAdKETTI PAA-PILLA"),
   (0x0DD6, "dDIGA PAA-PILLA"),
   (0x0DD8, "dGAETTA-PILLAdKOMBUVAdDIGA KOMBUVAdKOMBU DEKAdKOMBUVA HAA AELA-PILLA"),
   (0x0DDD, "fDIGA AELA-PILLAfGAYANUKITTAdGAYANUKITTA"),
   (0x0DE6, "bLITH DIGIT ZEROdONEdTWOdTHREEdFOURdFIVEdSIXdSEVENdEIGHTdNINE"),
   (0x0DF2, "bVOWEL SIGN DIGA GAETTA-PILLAeGAYANUKITTAbPUNCTUATION KUNDDALIYA"),
   (0x0E01, "aTHAI CHARACTER KO KAIcKHO KHAIdKHUATdKHWAIdKHONdRAKHANGcNGO NGUcCHO CHAN"),
   (0x0E09, "dCHINGdCHANGcSO SOcCHO CHOEcYO YINGcDO CHADAcTO PATAKcTHO THANdNANGMONTHO"),
   (0x0E12, "dPHUTHAOcNO NENcDO DEKcTO TAOcTHO THUNGdTHAHANdTHONGcNO NUcBO BAIMAIcPO PLA"),
   (0x0E1C, "cPHO PHUNGcFO FAcPHO PHANcFO FANcPHO SAMPHAOcMO MAcYO YAKcRO RUAcRUcLO LINGcLU"),
   (0x0E27, "cWO WAENcSO SALAdRUSIdSUAcHO HIPcLO CHULAcO ANGcHO NOKHUKcPAIYANNOIcSARA A"),
   (0x0E31, "cMAI HAN-AKATcSARA AAdAMdIdIIdUEdUEEdUdUUcPHINTHU"),
   (0x0E3F, "bCURRENCY SYMBOL BAHTbCHARACTER SARA EdAEdOdAI MAIMUANeMAIMALAIcLAKKHANGYAO"),
   (0x0E46, "cMAIYAMOKcMAITAIKHUcMAI EKdTHOdTRIdCHATTAWAcTHANTHAKHATcNIKHAHITcYAMAKKAN"),
   (0x0E4F, "cFONGMANbDIGIT ZEROcONEcTWOcTHREEcFOURcFIVEcSIXcSEVENcEIGHTcNINE"),
   (0x0E5A, "bCHARACTER ANGKHANKHUcKHOMUT"),
   (0x0E81, "aLAO LETTER KOcKHO SUNG"),
   (0x0E84, "dTAM"),
   (0x0E86, "cPALI GHAcNGOcCOcPALI CHAcSO TAM"),
   (0x0E8C, "cPALI JHAcNYOcPALI NYAdTTAdTTHAdDDAdDDHAdNNAcDOcTOcTHO SUNGdTAMcPALI DHAcNOcBO"),
   (0x0E9B, "cPOcPHO SUNGcFO TAMcPHO TAMcFO SUNGcPALI BHAcMOcYOcLO LING"),
   (0x0EA5, "dLOOT"),
   (0x0EA7, "cWOcSANSKRIT SHAdSSAcSO SUNGcHO SUNGcPALI LLAcOcHO TAMbELLIPSISbVOWEL SIGN A"),
   (0x0EB1, "dMAI KANdAAdAMdIdIIdYdYYdUdUUbSIGN PALI VIRAMAbVOWEL SIGN MAI KON"),
   (0x0EBC, "bSEMIVOWEL SIGN LOdNYO"),
   (0x0EC0, "bVOWEL SIGN EdEIdOdAYdAI"),
   (0x0EC6, "bKO LA"),
   (0x0EC8, "bTONE MAI EKdTHOdTIdCATAWAbCANCELLATION MARKbNIGGAHITA"),
   (0x0ED0, "bDIGIT ZEROcONEcTWOcTHREEcFOURcFIVEcSIXcSEVENcEIGHTcNINE"),
   (0x0EDC, "bHO NOcMObLETTER KHMU GOdNYO"),
   (0x0F00, "aTIBETAN SYLLABLE OMbMARK GTER YIG MGO TRUNCATED Af-UM RNAM BCAD MA"),
   (0x0F03, "hGTER TSHEG MAcINITIAL YIG MGO MDUN MAcCLOSING YIG MGO SGAB MA"),
   (0x0F06, "cCARET YIG MGO PHUR SHAD MAcYIG MGO TSHEG SHAD MAcSBRUL SHADcBSKUR YIG MGO"),
   (0x0F0A, "cBKA- SHOG YIG MGOcINTERSYLLABIC TSHEGcDELIMITER TSHEG BSTARcSHADcNYIS SHAD"),
   (0x0F0F, "cTSHEG SHADcNYIS TSHEG SHADcRIN CHEN SPUNGS SHADcRGYA GRAM SHAD"),
   (0x0F13, "cCARET -DZUD RTAGS ME LONG CANcGTER TSHEGbLOGOTYPE SIGN CHAD RTAGSdLHAG RTAGS"),
   (0x0F17, "bASTROLOGICAL SIGN SGRA GCAN -CHAR RTAGSd-KHYUD PAdSDONG TSHUGS"),
   (0x0F1A, "bSIGN RDEL DKAR GCIGeGNYISeGSUMdNAG GCIGeGNYISdDKAR RDEL NAGbDIGIT ZEROcONE"),
   (0x0F22, "cTWOcTHREEcFOURcFIVEcSIXcSEVENcEIGHTcNINEcHALF ONEdTWOdTHREEdFOURdFIVEdSIX"),
   (0x0F30, "dSEVENdEIGHTdNINEdZERObMARK BSDUS RTAGScNGAS BZUNG NYI ZLA"),
   (0x0F36, "cCARET -DZUD RTAGS BZHI MIG CANcNGAS BZUNG SGOR RTAGScCHE MGOcTSA -PHRU"),
   (0x0F3A, "cGUG RTAGS GYONeGYAScANG KHANG GYONeGYASbSIGN YAR TSHEScMAR TSHESbLETTER KA"),
   (0x0F41, "cKHAcGAcGHAcNGAcCAcCHAcJA"),
   (0x0F49, "cNYAcTTAcTTHAcDDAcDDHAcNNAcTAcTHAcDAcDHAcNAcPAcPHAcBAcBHAcMAcTSAcTSHAcDZAcDZHA"),
   (0x0F5D, "cWAcZHAcZAc-AcYAcRAcLAcSHAcSSAcSAcHAcAcKSSAcFIXED-FORM RAcKKAcRRA"),
   (0x0F71, "bVOWEL SIGN AAdIdIIdUdUUdVOCALIC ReRReLeLLdEdEEdOdOObSIGN RJES SU NGA RO"),
   (0x0F7F, "cRNAM BCADbVOWEL SIGN REVERSED IeIIbSIGN NYI ZLA NAA DAcSNA LDANbMARK HALANTA"),
   (0x0F85, "cPALUTAbSIGN LCI RTAGScYANG RTAGScLCE TSA CANcMCHU CANcGRU CAN RGYINGS"),
   (0x0F8B, "dMED RGYINGScINVERTED MCHU CANbSUBJOINED SIGN LCE TSA CANdMCHU CAN"),
   (0x0F8F, "dINVERTED MCHU CANcLETTER KAdKHAdGAdGHAdNGAdCAdCHAdJA"),
   (0x0F99, "dNYAdTTAdTTHAdDDAdDDHAdNNAdTAdTHAdDAdDHAdNAdPAdPHAdBAdBHAdMAdTSAdTSHAdDZAdDZHA"),
   (0x0FAD, "dWAdZHAdZAd-AdYAdRAdLAdSHAdSSAdSAdHAdAdKSSAdFIXED-FORM WAfYAfRA"),
   (0x0FBE, "bKU RU KHAdKHA BZHI MIG CANbCANTILLATION SIGN HEAVY BEATdLIGHT BEATdCANG TE-U"),
   (0x0FC3, "dSBUB -CHALbSYMBOL DRIL BUcRDO RJEcPADMA GDANcRDO RJE RGYA GRAMcPHUR PAcNOR BU"),
   (0x0FCA, "dBU NYIS -KHYILeGSUM -KHYILeBZHI -KHYIL"),
   (0x0FCE, "bSIGN RDEL NAG RDEL DKAReGSUMbMARK BSKA- SHOG GI MGO RGYAN"),
   (0x0FD1, "cMNYAM YIG GI MGO RGYANcNYIS TSHEGcINITIAL BRDA RNYING YIG MGO MDUN MA"),
   (0x0FD4, "cCLOSING BRDA RNYING YIG MGO SGAB MAaRIGHT-FACING SVASTI SIGN"),
   (0x0FD6, "aLEFT-FACING SVASTI SIGNaRIGHT-FACING SVASTI SIGN WITH DOTS"),
   (0x0FD8, "aLEFT-FACING SVASTI SIGN WITH DOTSaTIBETAN MARK LEADING MCHAN RTAGS"),
   (0x0FDA, "cTRAILING MCHAN RTAGS")]

end RecordAudit.Text.CharacterName

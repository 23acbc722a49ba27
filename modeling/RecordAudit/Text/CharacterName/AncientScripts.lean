/-!
# Names of letters and signs of ancient scripts

The characters from U+10000 to U+11FFF, from Linear B to Tamil signs. Each line gives the code point
of its first name; the names of the characters after it follow, each behind a small letter that
tells how many words it shares with the name before it.
-/

namespace RecordAudit.Text.CharacterName

def ancientScripts : List (Nat × String) :=
  [(0x10000, "aLINEAR B SYLLABLE B008 AdB038 EdB028 IdB061 OdB010 UdB001 DAdB045 DEdB007 DI"),
   (0x10008, "dB014 DOdB051 DUdB057 JAdB046 JE"),
   (0x1000D, "dB036 JOdB065 JUdB077 KAdB044 KEdB067 KIdB070 KOdB081 KUdB080 MAdB013 ME"),
   (0x10016, "dB073 MIdB015 MOdB023 MUdB006 NAdB024 NEdB030 NIdB052 NOdB055 NUdB003 PA"),
   (0x1001F, "dB072 PEdB039 PIdB011 POdB050 PUdB016 QAdB078 QEdB021 QIdB032 QO"),
   (0x10028, "dB060 RAdB027 REdB053 RIdB002 ROdB026 RUdB031 SAdB009 SEdB041 SIdB012 SO"),
   (0x10031, "dB058 SUdB059 TAdB004 TEdB037 TIdB005 TOdB069 TUdB054 WAdB075 WEdB040 WI"),
   (0x1003A, "dB042 WO"),
   (0x1003C, "dB017 ZAdB074 ZE"),
   (0x1003F, "dB020 ZOdB025 A2dB043 A3dB085 AUdB071 DWEdB090 DWOdB048 NWAdB029 PU2dB062 PTE"),
   (0x10048, "dB076 RA2dB033 RA3dB068 RO2dB066 TA2dB087 TWEdB091 TWO"),
   (0x10050, "cSYMBOL B018dB019dB022dB034dB047dB049dB056dB063dB064dB079dB082dB083dB086dB089"),
   (0x10080, "cIDEOGRAM B100 MANdB102 WOMANdB104 DEERdB105 EQUIDdB105F MAREdB105M STALLION"),
   (0x10086, "dB106F EWEdB106M RAMdB107F SHE-GOATdB107M HE-GOATdB108F SOWdB108M BOAR"),
   (0x1008C, "dB109F COWdB109M BULLdB120 WHEATdB121 BARLEYdB122 OLIVEdB123 SPICE"),
   (0x10092, "dB125 CYPERUScMONOGRAM B127 KAPOdB128 KANAKOcIDEOGRAM B130 OILdB131 WINEdB132"),
   (0x10098, "cMONOGRAM B133 AREPAdB135 MERIcIDEOGRAM B140 BRONZEdB141 GOLDdB142dB145 WOOL"),
   (0x1009E, "dB146dB150dB151 HORNdB152dB153dB154cMONOGRAM B156 TURO2cIDEOGRAM B157dB158"),
   (0x100A7, "dB159 CLOTHdB160dB161dB162 GARMENTdB163 ARMOURdB164dB165dB166dB167dB168dB169"),
   (0x100B2, "dB170dB171dB172dB173 MONTHdB174dB176 TREEdB177dB178dB179dB180dB181dB182dB183"),
   (0x100BF, "dB184dB185dB189dB190dB191 HELMETdB220 FOOTSTOOLdB225 BATHTUBdB230 SPEAR"),
   (0x100C7, "dB231 ARROWdB232dB233 SWORDdB234dB236dB240 WHEELED CHARIOTdB241 CHARIOT"),
   (0x100CE, "dB242 CHARIOT FRAMEdB243 WHEELdB245dB246cMONOGRAM B247 DIPTEcIDEOGRAM B248"),
   (0x100D4, "dB249dB251dB252dB253dB254 DARTdB255dB256dB257dB258dB259dVESSEL B155eB200eB201"),
   (0x100E1, "eB202eB203eB204eB205eB206eB207eB208eB209eB210eB211eB212eB213eB214eB215eB216"),
   (0x100F0, "eB217eB218eB219eB221eB222eB226eB227eB228eB229eB250eB305"),
   (0x10100, "aAEGEAN WORD SEPARATOR LINEdDOTbCHECK MARK"),
   (0x10107, "bNUMBER ONEcTWOcTHREEcFOURcFIVEcSIXcSEVENcEIGHTcNINEcTENcTWENTYcTHIRTYcFORTY"),
   (0x10114, "cFIFTYcSIXTYcSEVENTYcEIGHTYcNINETYcONE HUNDREDcTWO HUNDREDcTHREE HUNDRED"),
   (0x1011C, "cFOUR HUNDREDcFIVE HUNDREDcSIX HUNDREDcSEVEN HUNDREDcEIGHT HUNDRED"),
   (0x10121, "cNINE HUNDREDcONE THOUSANDcTWO THOUSANDcTHREE THOUSANDcFOUR THOUSAND"),
   (0x10126, "cFIVE THOUSANDcSIX THOUSANDcSEVEN THOUSANDcEIGHT THOUSANDcNINE THOUSAND"),
   (0x1012B, "cTEN THOUSANDcTWENTY THOUSANDcTHIRTY THOUSANDcFORTY THOUSANDcFIFTY THOUSAND"),
   (0x10130, "cSIXTY THOUSANDcSEVENTY THOUSANDcEIGHTY THOUSANDcNINETY THOUSAND"),
   (0x10137, "bWEIGHT BASE UNITcFIRST SUBUNITcSECOND SUBUNITcTHIRD SUBUNITcFOURTH SUBUNIT"),
   (0x1013C, "bDRY MEASURE FIRST SUBUNITbLIQUID MEASURE FIRST SUBUNITbMEASURE SECOND SUBUNIT"),
   (0x1013F, "cTHIRD SUBUNITaGREEK ACROPHONIC ATTIC ONE QUARTEReHALFeDRACHMAdFIVEdFIFTY"),
   (0x10145, "dFIVE HUNDREDeTHOUSANDdFIFTY THOUSANDdFIVE TALENTSdTEN TALENTSdFIFTY TALENTS"),
   (0x1014B, "dONE HUNDRED TALENTSdFIVE HUNDRED TALENTSdONE THOUSAND TALENTS"),
   (0x1014E, "dFIVE THOUSAND TALENTSeSTATERSdTEN STATERSdFIFTY STATERSdONE HUNDRED STATERS"),
   (0x10153, "dFIVE HUNDRED STATERSdONE THOUSAND STATERSdTEN THOUSAND STATERS"),
   (0x10156, "dFIFTY THOUSAND STATERSdTEN MNAScHERAEUM ONE PLETHRONcTHESPIAN ONE"),
   (0x1015A, "cHERMIONIAN ONEcEPIDAUREAN TWOcTHESPIAN TWOcCYRENAIC TWO DRACHMAS"),
   (0x1015E, "cEPIDAUREAN TWO DRACHMAScTROEZENIAN FIVEdTENdTEN ALTERNATE FORMcHERMIONIAN TEN"),
   (0x10163, "cMESSENIAN TENcTHESPIAN TENdTHIRTYcTROEZENIAN FIFTYdFIFTY ALTERNATE FORM"),
   (0x10168, "cHERMIONIAN FIFTYcTHESPIAN FIFTYdONE HUNDREDdTHREE HUNDRED"),
   (0x1016C, "cEPIDAUREAN FIVE HUNDREDcTROEZENIAN FIVE HUNDREDcTHESPIAN FIVE HUNDRED"),
   (0x1016F, "cCARYSTIAN FIVE HUNDREDcNAXIAN FIVE HUNDREDcTHESPIAN ONE THOUSAND"),
   (0x10172, "dFIVE THOUSANDcDELPHIC FIVE MNAScSTRATIAN FIFTY MNASbONE HALF SIGN"),
   (0x10176, "dSIGN ALTERNATE FORMbTWO THIRDS SIGNbTHREE QUARTERS SIGNbYEAR SIGNbTALENT SIGN"),
   (0x1017B, "bDRACHMA SIGNbOBOL SIGNbTWO OBOLS SIGNbTHREE OBOLS SIGNbFOUR OBOLS SIGN"),
   (0x10180, "bFIVE OBOLS SIGNbMETRETES SIGNbKYATHOS BASE SIGNbLITRA SIGNbOUNKIA SIGN"),
   (0x10185, "bXESTES SIGNbARTABE SIGNbAROURA SIGNbGRAMMA SIGNbTRYBLION BASE SIGNbZERO SIGN"),
   (0x1018B, "bONE QUARTER SIGNbSINUSOID SIGNbINDICTION SIGNaNOMISMA SIGN"),
   (0x10190, "aROMAN SEXTANS SIGNbUNCIA SIGNbSEMUNCIA SIGNbSEXTULA SIGNbDIMIDIA SEXTULA SIGN"),
   (0x10195, "bSILIQUA SIGNbDENARIUS SIGNbQUINARIUS SIGNbSESTERTIUS SIGNbDUPONDIUS SIGN"),
   (0x1019A, "bAS SIGNbCENTURIAL SIGNaASCIA SYMBOL"),
   (0x101A0, "aGREEK SYMBOL TAU RHO"),
   (0x101D0, "aPHAISTOS DISC SIGN PEDESTRIANdPLUMED HEADdTATTOOED HEADdCAPTIVEdCHILDdWOMAN"),
   (0x101D6, "dHELMETdGAUNTLETdTIARAdARROWdBOWdSHIELDdCLUBdMANACLESdMATTOCKdSAWdLID"),
   (0x101E1, "dBOOMERANGdCARPENTRY PLANEdDOLIUMdCOMBdSLINGdCOLUMNdBEEHIVEdSHIPdHORNdHIDE"),
   (0x101EB, "dBULLS LEGdCATdRAMdEAGLEdDOVEdTUNNYdBEEdPLANE TREEdVINEdPAPYRUSdROSETTEdLILY"),
   (0x101F7, "dOX BACKdFLUTEdGRATERdSTRAINERdSMALL AXEdWAVY BANDdCOMBINING OBLIQUE STROKE"),
   (0x10280, "aLYCIAN LETTER AcEcBcBHcGcDcIcWcZcTHcJcKcQcLcMcNcMMcNNcUcPcKKcRcScTcTTcANcENcH"),
   (0x1029C, "cX"),
   (0x102A0, "aCARIAN LETTER AcP2cDcLcUUUcRcLDcA2cQcBcMcOcD2cTcSHcSH2cScC-18cUcNNcXcNcTT2cP"),
   (0x102B8, "cSScIcEcUUUUcKcK2cNDcUUcGcG2cSTcST2cNGcIIcC-39cTTcUUU2cRRcMBcMB2cMB3cMB4cLD2"),
   (0x102CF, "cE2cUUU3"),
   (0x102E0, "aCOPTIC EPACT THOUSANDS MARKcDIGIT ONEdTWOdTHREEdFOURdFIVEdSIXdSEVENdEIGHT"),
   (0x102E9, "dNINEcNUMBER TENdTWENTYdTHIRTYdFORTYdFIFTYdSIXTYdSEVENTYdEIGHTYdNINETY"),
   (0x102F3, "dONE HUNDREDdTWO HUNDREDdTHREE HUNDREDdFOUR HUNDREDdFIVE HUNDREDdSIX HUNDRED"),
   (0x102F9, "dSEVEN HUNDREDdEIGHT HUNDREDdNINE HUNDRED"),
   (0x10300, "aOLD ITALIC LETTER AdBEdKEdDEdEdVEdZEdHEdTHEdIdKAdELdEMdENdESHdOdPEdSHEdKUdER"),
   (0x10314, "dESdTEdUdEKSdPHEdKHEdEFdERSdCHEdIIdUUdESScNUMERAL ONEdFIVEdTENdFIFTY"),
   (0x1032D, "cLETTER YEdNORTHERN TSEdSOUTHERN TSEaGOTHIC LETTER AHSAcBAIRKANcGIBAcDAGS"),
   (0x10334, "cAIHVUScQAIRTHRAcIUJAcHAGLcTHIUTHcEIScKUSMAcLAGUScMANNAcNAUTHScJERcURUS"),
   (0x10340, "cPAIRTHRAcNINETYcRAIDAcSAUILcTEIWScWINJAcFAIHUcIGGWScHWAIRcOTHALcNINE HUNDRED"),
   (0x10350, "aOLD PERMIC LETTER ANdBURdGAIdDOIdEdZHOIdDZHOIdZATAdDZITAdIdKOKEdLEIdMENOE"),
   (0x1035D, "dNENOEdVOOIdPEEIdREIdSIIdTAIdUdCHERYdSHOOIdSHCHOOIdYRYdYERUdOdOOdEFdHAdTSIU"),
   (0x1036E, "dVERdYERdYERIdYATdIEdYUdYAdIAaCOMBINING OLD PERMIC LETTER ANeDOIeZATAeNENOE"),
   (0x1037A, "eSII"),
   (0x10380, "aUGARITIC LETTER ALPAcBETAcGAMLAcKHAcDELTAcHOcWOcZETAcHOTAcTETcYODcKAFcSHIN"),
   (0x1038D, "cLAMDAcMEMcDHALcNUNcZUcSAMKAcAINcPUcSADEcQOPAcRASHAcTHANNAcGHAINcTOcIcUcSSU"),
   (0x1039F, "bWORD DIVIDERaOLD PERSIAN SIGN AdIdUdKAdKUdGAdGUdXAdCAdJAdJIdTAdTUdDAdDIdDU"),
   (0x103B0, "dTHAdPAdBAdFAdNAdNUdMAdMIdMUdYAdVAdVIdRAdRUdLAdSAdZAdSHAdSSAdHA"),
   (0x103C8, "dAURAMAZDAAdAURAMAZDAA-2dAURAMAZDAAHAdXSHAAYATHIYAdDAHYAAUSHdDAHYAAUSH-2dBAGA"),
   (0x103CF, "dBUUMISHcWORD DIVIDERcNUMBER ONEdTWOdTENdTWENTYdHUNDRED"),
   (0x10400, "aDESERET CAPITAL LETTER LONG IeEeAeAHeOeOOdSHORT IeEeAeAHeOeOOdAYdOWdWUdYEEdH"),
   (0x10411, "dPEEdBEEdTEEdDEEdCHEEdJEEdKAYdGAYdEFdVEEdETHdTHEEdESdZEEdESHdZHEEdERdELdEMdEN"),
   (0x10425, "dENGdOIdEWbSMALL LETTER LONG IeEeAeAHeOeOOdSHORT IeEeAeAHeOeOOdAYdOWdWUdYEEdH"),
   (0x10439, "dPEEdBEEdTEEdDEEdCHEEdJEEdKAYdGAYdEFdVEEdETHdTHEEdESdZEEdESHdZHEEdERdELdEMdEN"),
   (0x1044D, "dENGdOIdEWaSHAVIAN LETTER PEEPcTOTcKICKcFEEcTHIGHcSOcSUREcCHURCHcYEAcHUNGcBIB"),
   (0x1045B, "cDEADcGAGcVOWcTHEYcZOOcMEASUREcJUDGEcWOEcHA-HAcLOLLcMIMEcIFcEGGcASHcADOcON"),
   (0x1046B, "cWOOLcOUTcAHcROARcNUNcEATcAGEcICEcUPcOAKcOOZEcOILcAWEcAREcORcAIRcERRcARRAYcEAR"),
   (0x1047E, "cIANcYEWaOSMANYA LETTER ALEFcBAcTAcJAcXAcKHAcDEELcRAcSAcSHIINcDHAcCAYNcGAcFA"),
   (0x1048E, "cQAAFcKAAFcLAANcMIINcNUUNcWAWcHAcYAcAcEcIcOcUcAAcEEcOO"),
   (0x104A0, "bDIGIT ZEROcONEcTWOcTHREEcFOURcFIVEcSIXcSEVENcEIGHTcNINE"),
   (0x104B0, "aOSAGE CAPITAL LETTER AdAIdAINdAHdBRAdCHAdEHCHAdEdEINdHAdHYAdIdKAdEHKAdKYAdLA"),
   (0x104C0, "dMAdNAdOdOINdPAdEHPAdSAdSHAdTAdEHTAdTSAdEHTSAdTSHAdDHAdUdWAdKHAdGHAdZAdZHA"),
   (0x104D8, "bSMALL LETTER AdAIdAINdAHdBRAdCHAdEHCHAdEdEINdHAdHYAdIdKAdEHKAdKYAdLAdMAdNAdO"),
   (0x104EB, "dOINdPAdEHPAdSAdSHAdTAdEHTAdTSAdEHTSAdTSHAdDHAdUdWAdKHAdGHAdZAdZHA"),
   (0x10500, "aELBASAN LETTER AcBEcCEcCHEcDEcNDEcDHEcEIcEcFEcGEcGJEcHEcIcJEcKEcLEcLLEcMEcNE"),
   (0x10514, "cNAcNJEcOcPEcQEcREcRREcSEcSHEcTEcTHEcUcVEcXEcYcZEcZHEcGHEcGHAMMAcKHE"),
   (0x10530, "aCAUCASIAN ALBANIAN LETTER ALTdBETdGIMdDATdEBdZARLdEYNdZHILdTASdCHAdYOWDdZHA"),
   (0x1053C, "dIRBdSHAdLANdINYAdXEYNdDYANdCARdJHOXdKARdLYITdHEYTdQAYdAORdCHOYdCHIdCYAYdMAQ"),
   (0x1054D, "dQARdNOWCdDZYAYdSHAKdJAYNdONdTYAYdFAMdDZAYdCHATdPENdGHEYSdRATdSEYKdVEYZdTIWR"),
   (0x1055D, "dSHOYdIWNdCYAWdCAYNdYAYDdPIWRdKIW"),
   (0x1056F, "cCITATION MARKaVITHKUQI CAPITAL LETTER AdBBEdBEdCEdCHEdDEdDHEdEIdEdFEdGA"),
   (0x1057C, "dHAdHHAdIdIJEdJEdKAdLAdLLAdMEdNEdNJEdOdPEdQAdRE"),
   (0x1058C, "dSEdSHEdTEdTHEdUdVEdXE"),
   (0x10594, "dYdZE"),
   (0x10597, "bSMALL LETTER AdBBEdBEdCEdCHEdDEdDHEdEIdEdFEdGA"),
   (0x105A3, "dHAdHHAdIdIJEdJEdKAdLAdLLAdMEdNEdNJEdOdPEdQAdRE"),
   (0x105B3, "dSEdSHEdTEdTHEdUdVEdXE"),
   (0x105BB, "dYdZE"),
   (0x10600, "aLINEAR A SIGN AB001dAB002dAB003dAB004dAB005dAB006dAB007dAB008dAB009dAB010"),
   (0x1060A, "dAB011dAB013dAB016dAB017dAB020dAB021dAB021FdAB021MdAB022dAB022FdAB022MdAB023"),
   (0x10616, "dAB023MdAB024dAB026dAB027dAB028dA028BdAB029dAB030dAB031dAB034dAB037dAB038"),
   (0x10622, "dAB039dAB040dAB041dAB044dAB045dAB046dAB047dAB048dAB049dAB050dAB051dAB053dAB054"),
   (0x1062F, "dAB055dAB056dAB057dAB058dAB059dAB060dAB061dAB065dAB066dAB067dAB069dAB070dAB073"),
   (0x1063C, "dAB074dAB076dAB077dAB078dAB079dAB080dAB081dAB082dAB085dAB086dAB087dA100-102"),
   (0x10648, "dAB118dAB120dA120BdAB122dAB123dAB131AdAB131BdA131CdAB164dAB171dAB180dAB188"),
   (0x10654, "dAB191dA301dA302dA303dA304dA305dA306dA307dA308dA309AdA309BdA309CdA310dA311"),
   (0x10662, "dA312dA313AdA313BdA313CdA314dA315dA316dA317dA318dA319dA320dA321dA322dA323dA324"),
   (0x10671, "dA325dA326dA327dA328dA329dA330dA331dA332dA333dA334dA335dA336dA337dA338dA339"),
   (0x10680, "dA340dA341dA342dA343dA344dA345dA346dA347dA348dA349dA350dA351dA352dA353dA354"),
   (0x1068F, "dA355dA356dA357dA358dA359dA360dA361dA362dA363dA364dA365dA366dA367dA368dA369"),
   (0x1069E, "dA370dA371dA400-VASdA401-VASdA402-VASdA403-VASdA404-VASdA405-VASdA406-VAS"),
   (0x106A7, "dA407-VASdA408-VASdA409-VASdA410-VASdA411-VASdA412-VASdA413-VASdA414-VAS"),
   (0x106AF, "dA415-VASdA416-VASdA417-VASdA418-VASdA501dA502dA503dA504dA505dA506dA508dA509"),
   (0x106BB, "dA510dA511dA512dA513dA515dA516dA520dA521dA523dA524dA525dA526dA527dA528dA529"),
   (0x106CA, "dA530dA531dA532dA534dA535dA536dA537dA538dA539dA540dA541dA542dA545dA547dA548"),
   (0x106D9, "dA549dA550dA551dA552dA553dA554dA555dA556dA557dA559dA563dA564dA565dA566dA568"),
   (0x106E8, "dA569dA570dA571dA572dA573dA574dA575dA576dA577dA578dA579dA580dA581dA582dA583"),
   (0x106F7, "dA584dA585dA586dA587dA588dA589dA591dA592dA594dA595dA596dA598dA600dA601dA602"),
   (0x10706, "dA603dA604dA606dA608dA609dA610dA611dA612dA613dA614dA615dA616dA617dA618dA619"),
   (0x10715, "dA620dA621dA622dA623dA624dA626dA627dA628dA629dA634dA637dA638dA640dA642dA643"),
   (0x10724, "dA644dA645dA646dA648dA649dA651dA652dA653dA654dA655dA656dA657dA658dA659dA660"),
   (0x10733, "dA661dA662dA663dA664"),
   (0x10740, "dA701 AdA702 BdA703 DdA704 EdA705 FdA706 HdA707 JdA708 KdA709 LdA709-2 L2e3 L3"),
   (0x1074B, "e4 L4e6 L6dA710 WdA711 XdA712 YdA713 OMEGAdA714 ABBdA715 BBdA717 DDdA726 EYYY"),
   (0x10755, "dA732 JE"),
   (0x10760, "dA800dA801dA802dA803dA804dA805dA806dA807"),
   (0x10780, "aMODIFIER LETTER SMALL CAPITAL AAcSUPERSCRIPT TRIANGULAR COLON"),
   (0x10782, "dHALF TRIANGULAR COLONcSMALL AEdCAPITAL BdB WITH HOOK"),
   (0x10787, "dDZ DIGRAPHeDIGRAPH WITH RETROFLEX HOOKgCURLdDEZH DIGRAPHdD WITH TAILfHOOK"),
   (0x1078D, "fHOOK AND TAILdREVERSED EdCLOSED REVERSED OPEN EdFENG DIGRAPHdRAMS HORN"),
   (0x10792, "dCAPITAL GdG WITH HOOKdCAPITAL G WITH HOOKdH WITH STROKEdCAPITAL H"),
   (0x10797, "dHENG WITH HOOKdDOTLESS J WITH STROKE AND HOOKdLS DIGRAPHdLZ DIGRAPH"),
   (0x1079B, "dL WITH BELTdCAPITAL L WITH BELTdL WITH RETROFLEX HOOK AND BELTdLEZH"),
   (0x1079F, "dLEZH WITH RETROFLEX HOOKdTURNED YeY WITH BELTdO WITH STROKEdCAPITAL OE"),
   (0x107A4, "dCLOSED OMEGAdQdTURNED R WITH LONG LEGhLEG AND RETROFLEX HOOKdR WITH TAIL"),
   (0x107A9, "fFISHHOOKdCAPITAL RdTC DIGRAPH WITH CURLdTS DIGRAPH"),
   (0x107AD, "eDIGRAPH WITH RETROFLEX HOOKdTESH DIGRAPHdT WITH RETROFLEX HOOK"),
   (0x107B0, "dV WITH RIGHT HOOK"),
   (0x107B2, "dCAPITAL YcGLOTTAL STOP WITH STROKEcREVERSED GLOTTAL STOP WITH STROKE"),
   (0x107B5, "cBILABIAL CLICKcDENTAL CLICKcLATERAL CLICKcALVEOLAR CLICK"),
   (0x107B9, "cRETROFLEX CLICK WITH RETROFLEX HOOKcSMALL S WITH CURL"),
   (0x10800, "aCYPRIOT SYLLABLE AcEcIcOcUcJA"),
   (0x10808, "cJO"),
   (0x1080A, "cKAcKEcKIcKOcKUcLAcLEcLIcLOcLUcMAcMEcMIcMOcMUcNAcNEcNIcNOcNUcPAcPEcPIcPOcPUcRA"),
   (0x10824, "cREcRIcROcRUcSAcSEcSIcSOcSUcTAcTEcTIcTOcTUcWAcWEcWIcWO"),
   (0x10837, "cXAcXE"),
   (0x1083C, "cZA"),
   (0x1083F, "cZOaIMPERIAL ARAMAIC LETTER ALEPHdBETHdGIMELdDALETHdHEdWAWdZAYINdHETHdTETH"),
   (0x10849, "dYODHdKAPHdLAMEDHdMEMdNUNdSAMEKHdAYINdPEdSADHEdQOPHdRESHdSHINdTAW"),
   (0x10857, "cSECTION SIGNcNUMBER ONEdTWOdTHREEdTENdTWENTYdONE HUNDREDeTHOUSAND"),
   (0x1085F, "dTEN THOUSANDaPALMYRENE LETTER ALEPHcBETHcGIMELcDALETHcHEcWAWcZAYINcHETHcTETH"),
   (0x10869, "cYODHcKAPHcLAMEDHcMEMcFINAL NUNcNUNcSAMEKHcAYINcPEcSADHEcQOPHcRESHcSHINcTAW"),
   (0x10877, "bLEFT-POINTING FLEURONbRIGHT-POINTING FLEURONbNUMBER ONEcTWOcTHREEcFOURcFIVE"),
   (0x1087E, "cTENcTWENTYaNABATAEAN LETTER FINAL ALEPHcALEPHcFINAL BETHcBETHcGIMELcDALETH"),
   (0x10886, "cFINAL HEcHEcWAWcZAYINcHETHcTETHcFINAL YODHcYODHcFINAL KAPHcKAPHcFINAL LAMEDH"),
   (0x10891, "cLAMEDHcFINAL MEMcMEMcFINAL NUNcNUNcSAMEKHcAYINcPEcSADHEcQOPHcRESHcFINAL SHIN"),
   (0x1089D, "cSHINcTAW"),
   (0x108A7, "bNUMBER ONEcTWOcTHREEcFOURbCRUCIFORM NUMBER FOURbNUMBER FIVEcTENcTWENTY"),
   (0x108AF, "cONE HUNDRED"),
   (0x108E0, "aHATRAN LETTER ALEPHcBETHcGIMELcDALETH-RESHcHEcWAWcZAYNcHETHcTETHcYODHcKAPH"),
   (0x108EB, "cLAMEDHcMEMcNUNcSAMEKHcAYNcPEcSADHEcQOPH"),
   (0x108F4, "cSHINcTAW"),
   (0x108FB, "bNUMBER ONEcFIVEcTENcTWENTYcONE HUNDREDaPHOENICIAN LETTER ALFcBETcGAMLcDELTcHE"),
   (0x10905, "cWAUcZAIcHETcTETcYODcKAFcLAMDcMEMcNUNcSEMKcAINcPEcSADEcQOFcROSHcSHINcTAU"),
   (0x10916, "bNUMBER ONEcTENcTWENTYcONE HUNDREDcTWOcTHREE"),
   (0x1091F, "bWORD SEPARATORaLYDIAN LETTER AcBcGcDcEcVcIcYcKcLcMcNcOcRcSScTcUcFcQcScTTcAN"),
   (0x10936, "cENcLYcNNcC"),
   (0x1093F, "bTRIANGULAR MARK"),
   (0x10980, "aMEROITIC HIEROGLYPHIC LETTER AdEdIdOdYAdWAdBAdBA-2dPAdMAdNAdNA-2dNEdNE-2dRA"),
   (0x1098F, "dRA-2dLAdKHAdHHAdSAdSA-2dSEdKAdQAdTAdTA-2dTEdTE-2dTOdDAcSYMBOL VIDJdVIDJ-2"),
   (0x109A0, "bCURSIVE LETTER AdEdIdOdYAdWAdBAdPAdMAdNAdNEdRAdLAdKHAdHHAdSAdARCHAIC SAdSEdKA"),
   (0x109B3, "dQAdTAdTEdTOdDA"),
   (0x109BC, "cFRACTION ELEVEN TWELFTHSdONE HALFcLOGOGRAM RMTdIMNcNUMBER ONEdTWOdTHREEdFOUR"),
   (0x109C4, "dFIVEdSIXdSEVENdEIGHTdNINEdTENdTWENTYdTHIRTYdFORTYdFIFTYdSIXTYdSEVENTY"),
   (0x109D2, "dONE HUNDREDdTWO HUNDREDdTHREE HUNDREDdFOUR HUNDREDdFIVE HUNDREDdSIX HUNDRED"),
   (0x109D8, "dSEVEN HUNDREDdEIGHT HUNDREDdNINE HUNDREDdONE THOUSANDdTWO THOUSAND"),
   (0x109DD, "dTHREE THOUSANDdFOUR THOUSANDdFIVE THOUSANDdSIX THOUSANDdSEVEN THOUSAND"),
   (0x109E2, "dEIGHT THOUSANDdNINE THOUSANDdTEN THOUSANDdTWENTY THOUSANDdTHIRTY THOUSAND"),
   (0x109E7, "dFORTY THOUSANDdFIFTY THOUSANDdSIXTY THOUSANDdSEVENTY THOUSANDdEIGHTY THOUSAND"),
   (0x109EC, "dNINETY THOUSANDdONE HUNDRED THOUSANDdTWO HUNDRED THOUSAND"),
   (0x109EF, "dTHREE HUNDRED THOUSANDdFOUR HUNDRED THOUSANDdFIVE HUNDRED THOUSAND"),
   (0x109F2, "dSIX HUNDRED THOUSANDdSEVEN HUNDRED THOUSANDdEIGHT HUNDRED THOUSAND"),
   (0x109F5, "dNINE HUNDRED THOUSANDcFRACTION ONE TWELFTHdTWO TWELFTHSdTHREE TWELFTHS"),
   (0x109F9, "dFOUR TWELFTHSdFIVE TWELFTHSdSIX TWELFTHSdSEVEN TWELFTHSdEIGHT TWELFTHS"),
   (0x109FE, "dNINE TWELFTHSdTEN TWELFTHSaKHAROSHTHI LETTER AbVOWEL SIGN IdUdVOCALIC R"),
   (0x10A05, "dEdO"),
   (0x10A0C, "cLENGTH MARKbSIGN DOUBLE RING BELOWcANUSVARAcVISARGAbLETTER KAcKHAcGAcGHA"),
   (0x10A15, "cCAcCHAcJA"),
   (0x10A19, "cNYAcTTAcTTHAcDDAcDDHAcNNAcTAcTHAcDAcDHAcNAcPAcPHAcBAcBHAcMAcYAcRAcLAcVAcSHA"),
   (0x10A2E, "cSSAcSAcZAcHAcKKAcTTTHAcTTTAcVHA"),
   (0x10A38, "bSIGN BAR ABOVEcCAUDAcDOT BELOW"),
   (0x10A3F, "bVIRAMAbDIGIT ONEcTWOcTHREEcFOURbNUMBER TENcTWENTYcONE HUNDREDdTHOUSAND"),
   (0x10A48, "bFRACTION ONE HALF"),
   (0x10A50, "bPUNCTUATION DOTcSMALL CIRCLEcCIRCLEcCRESCENT BARcMANGALAMcLOTUScDANDA"),
   (0x10A57, "cDOUBLE DANDAcLINES"),
   (0x10A60, "aOLD SOUTH ARABIAN LETTER HEeLAMEDHeHETHeMEMeQOPHeWAWeSHINeRESHeBETHeTAWeSAT"),
   (0x10A6B, "eKAPHeNUNeKHETHeSADHEeSAMEKHeFEeALEFeAYNeDHADHEeGIMELeDALETHeGHAYNeTETHeZAYN"),
   (0x10A79, "eDHALETHeYODHeTHAWeTHETHdNUMBER ONEeFIFTYdNUMERIC INDICATOR"),
   (0x10A80, "bNORTH ARABIAN LETTER HEHeLAMeHAHeMEEMeQAFeWAWeES-2eREHeBEHeTEHeES-1eKAFeNOON"),
   (0x10A8D, "eKHAHeSADeES-3eFEHeALEFeAINeDADeGEEMeDALeGHAINeTAHeZAINeTHALeYEHeTHEHeZAH"),
   (0x10A9D, "dNUMBER ONEeTENeTWENTY"),
   (0x10AC0, "aMANICHAEAN LETTER ALEPHcBETHcBHETHcGIMELcGHIMELcDALETHcHEcWAWbSIGN UD"),
   (0x10AC9, "bLETTER ZAYINcZHAYINcJAYINcJHAYINcHETHcTETHcYODHcKAPHcXAPHcKHAPHcLAMEDH"),
   (0x10AD4, "cDHAMEDHcTHAMEDHcMEMcNUNcSAMEKHcAYINcAAYINcPEcFEcSADHEcQOPHcXOPHcQHOPHcRESH"),
   (0x10AE2, "cSHINcSSHINcTAWbABBREVIATION MARK ABOVEdBELOW"),
   (0x10AEB, "bNUMBER ONEcFIVEcTENcTWENTYcONE HUNDREDbPUNCTUATION STARcFLEURON"),
   (0x10AF2, "cDOUBLE DOT WITHIN DOTcDOT WITHIN DOTcDOTcTWO DOTScLINE FILLER"),
   (0x10B00, "aAVESTAN LETTER AcAAcAOcAAOcANcAANcAEcAEEcEcEEcOcOOcIcIIcUcUUcKEcXEcXYEcXVEcGE"),
   (0x10B15, "cGGEcGHEcCEcJEcTEcTHEcDEcDHEcTTEcPEcFEcBEcBHEcNGEcNGYEcNGVEcNEcNYEcNNEcMEcHME"),
   (0x10B2A, "cYYEcYEcVEcREcLEcSEcZEcSHEcZHEcSHYEcSSHEcHE"),
   (0x10B39, "bABBREVIATION MARKaTINY TWO DOTS OVER ONE DOT PUNCTUATION"),
   (0x10B3B, "aSMALL TWO DOTS OVER ONE DOT PUNCTUATION"),
   (0x10B3C, "aLARGE TWO DOTS OVER ONE DOT PUNCTUATIONbONE DOT OVER TWO DOTS PUNCTUATION"),
   (0x10B3E, "bTWO RINGS OVER ONE RING PUNCTUATIONbONE RING OVER TWO RINGS PUNCTUATION"),
   (0x10B40, "aINSCRIPTIONAL PARTHIAN LETTER ALEPHdBETHdGIMELdDALETHdHEdWAWdZAYINdHETHdTETH"),
   (0x10B49, "dYODHdKAPHdLAMEDHdMEMdNUNdSAMEKHdAYINdPEdSADHEdQOPHdRESHdSHINdTAW"),
   (0x10B58, "cNUMBER ONEdTWOdTHREEdFOURdTENdTWENTYdONE HUNDREDeTHOUSAND"),
   (0x10B60, "bPAHLAVI LETTER ALEPHdBETHdGIMELdDALETHdHEdWAW-AYIN-RESHdZAYINdHETHdTETHdYODH"),
   (0x10B6A, "dKAPHdLAMEDHdMEM-QOPHdNUNdSAMEKHdPEdSADHEdSHINdTAW"),
   (0x10B78, "cNUMBER ONEdTWOdTHREEdFOURdTENdTWENTYdONE HUNDREDeTHOUSAND"),
   (0x10B80, "aPSALTER PAHLAVI LETTER ALEPHdBETHdGIMELdDALETHdHEdWAW-AYIN-RESHdZAYINdHETH"),
   (0x10B88, "dYODHdKAPHdLAMEDHdMEM-QOPHdNUNdSAMEKHdPEdSADHEdSHINdTAW"),
   (0x10B99, "cSECTION MARKcTURNED SECTION MARKcFOUR DOTS WITH CROSSfDOT"),
   (0x10BA9, "cNUMBER ONEdTWOdTHREEdFOURdTENdTWENTYdONE HUNDRED"),
   (0x10C00, "aOLD TURKIC LETTER ORKHON AdYENISEI AeAEdORKHON IdYENISEI IeEdORKHON OeOE"),
   (0x10C08, "dYENISEI OEdORKHON ABdYENISEI ABdORKHON AEBdYENISEI AEBdORKHON AGdYENISEI AG"),
   (0x10C0F, "dORKHON AEGdYENISEI AEGdORKHON ADdYENISEI ADdORKHON AEDeEZdYENISEI EZ"),
   (0x10C16, "dORKHON AYdYENISEI AYdORKHON AEYdYENISEI AEYdORKHON AEKdYENISEI AEKdORKHON OEK"),
   (0x10C1D, "dYENISEI OEKdORKHON ALdYENISEI ALdORKHON AELeELTeEMeANeAENdYENISEI AEN"),
   (0x10C26, "dORKHON ENTdYENISEI ENTdORKHON ENCdYENISEI ENCdORKHON ENYdYENISEI ENYeANG"),
   (0x10C2D, "dORKHON ENGdYENISEI AENGdORKHON EPeOPeICeECdYENISEI ECdORKHON AQdYENISEI AQ"),
   (0x10C36, "dORKHON IQdYENISEI IQdORKHON OQdYENISEI OQdORKHON ARdYENISEI ARdORKHON AEReAS"),
   (0x10C3E, "eAESeASHdYENISEI ASHdORKHON ESHdYENISEI ESHdORKHON ATdYENISEI ATdORKHON AET"),
   (0x10C46, "dYENISEI AETdORKHON OTeBASH"),
   (0x10C80, "bHUNGARIAN CAPITAL LETTER AeAAeEBeAMBeECeENCeECSeEDeANDeEeCLOSE EeEEeEFeEGeEGY"),
   (0x10C8F, "eEHeIeIIeEJeEKeAKeUNKeELeELYeEMeENeENYeOeOOeNIKOLSBURG OEeRUDIMENTA OEeOEEeEP"),
   (0x10CA1, "eEMPeEReSHORT EReESeESZeETeENTeETYeECHeUeUUeNIKOLSBURG UEeRUDIMENTA UEeEVeEZ"),
   (0x10CB0, "eEZSeENT-SHAPED SIGNeUS"),
   (0x10CC0, "cSMALL LETTER AeAAeEBeAMBeECeENCeECSeEDeANDeEeCLOSE EeEEeEFeEGeEGYeEHeIeIIeEJ"),
   (0x10CD3, "eEKeAKeUNKeELeELYeEMeENeENYeOeOOeNIKOLSBURG OEeRUDIMENTA OEeOEEeEPeEMPeER"),
   (0x10CE3, "eSHORT EReESeESZeETeENTeETYeECHeUeUUeNIKOLSBURG UEeRUDIMENTA UEeEVeEZeEZS"),
   (0x10CF1, "eENT-SHAPED SIGNeUS"),
   (0x10CFA, "cNUMBER ONEdFIVEdTENdFIFTYdONE HUNDREDeTHOUSANDaHANIFI ROHINGYA LETTER AdBAdPA"),
   (0x10D03, "dTAdTTAdJAdCAdHAdKHAdFAdDAdDDAdRAdRRAdZAdSAdSHAdKAdGAdLAdMAdNAdWAdKINNA WAdYA"),
   (0x10D19, "dKINNA YAdNGAdNYAdVAcVOWEL AdIdUdEdOcMARK SAKINdNA KHONNAcSIGN HARBAHAYdTAHALA"),
   (0x10D26, "dTANAdTASSI"),
   (0x10D30, "cDIGIT ZEROdONEdTWOdTHREEdFOURdFIVEdSIXdSEVENdEIGHTdNINE"),
   (0x10E60, "aRUMI DIGIT ONEcTWOcTHREEcFOURcFIVEcSIXcSEVENcEIGHTcNINEbNUMBER TENcTWENTY"),
   (0x10E6B, "cTHIRTYcFORTYcFIFTYcSIXTYcSEVENTYcEIGHTYcNINETYcONE HUNDREDcTWO HUNDRED"),
   (0x10E74, "cTHREE HUNDREDcFOUR HUNDREDcFIVE HUNDREDcSIX HUNDREDcSEVEN HUNDRED"),
   (0x10E79, "cEIGHT HUNDREDcNINE HUNDREDbFRACTION ONE HALFdQUARTERdTHIRDcTWO THIRDS"),
   (0x10E80, "aYEZIDI LETTER ELIFcBEcPEcPHEcTHEcSEcCIMcCHIMcCHHIMcHHAcXAcDALcZALcRAcRHAcZA"),
   (0x10E90, "cJAcSINcSHINcSADcDADcTAcZEcEYNcXHEYNcFAcVAcVA ALTERNATE FORMcQAFcKAFcKHAFcGAF"),
   (0x10EA0, "cLAMcMIMcNUNcUMcWAWcOWcEWcHAYcYOTcET"),
   (0x10EAB, "bCOMBINING HAMZA MARKcMADDA MARKbHYPHENATION MARK"),
   (0x10EB0, "bLETTER LAM WITH DOT ABOVEcYOT WITH CIRCUMFLEX ABOVE"),
   (0x10F00, "aOLD SOGDIAN LETTER ALEPHdFINAL ALEPHdBETHdFINAL BETHdGIMELdHEdFINAL HEdWAW"),
   (0x10F08, "dZAYINdHETHdYODHdKAPHdLAMEDHdMEMdNUNdFINAL NUNeNUN WITH VERTICAL TAILdSAMEKH"),
   (0x10F12, "dAYINdALTERNATE AYINdPEdSADHEdFINAL SADHEeSADHE WITH VERTICAL TAIL"),
   (0x10F18, "dRESH-AYIN-DALETHdSHINdTAWdFINAL TAWeTAW WITH VERTICAL TAILcNUMBER ONEdTWO"),
   (0x10F1F, "dTHREEdFOURdFIVEdTENdTWENTYdTHIRTYdONE HUNDREDcFRACTION ONE HALF"),
   (0x10F27, "cLIGATURE AYIN-DALETH"),
   (0x10F30, "aSOGDIAN LETTER ALEPHcBETHcGIMELcHEcWAWcZAYINcHETHcYODHcKAPHcLAMEDHcMEMcNUN"),
   (0x10F3C, "cSAMEKHcAYINcPEcSADHEcRESH-AYINcSHINcTAWcFETHcLESHbINDEPENDENT SHIN"),
   (0x10F46, "bCOMBINING DOT BELOWcTWO DOTS BELOWcDOT ABOVEcTWO DOTS ABOVEcCURVE ABOVEdBELOW"),
   (0x10F4C, "cHOOK ABOVEdBELOWcLONG HOOK BELOWcRESH BELOWcSTROKE BELOWbNUMBER ONEcTEN"),
   (0x10F53, "cTWENTYcONE HUNDREDbPUNCTUATION TWO VERTICAL BARSeBARS WITH DOTS"),
   (0x10F57, "cCIRCLE WITH DOTcTWO CIRCLES WITH DOTScHALF CIRCLE WITH DOT"),
   (0x10F70, "aOLD UYGHUR LETTER ALEPHdBETHdGIMEL-HETHdWAWdZAYINdFINAL HETHdYODHdKAPHdLAMEDH"),
   (0x10F79, "dMEMdNUNdSAMEKHdPEdSADHEdRESHdSHINdTAWdLESHcCOMBINING DOT ABOVEeBELOW"),
   (0x10F84, "dTWO DOTS ABOVEfBELOWcPUNCTUATION BARdTWO BARSeDOTSdFOUR DOTS"),
   (0x10FB0, "aCHORASMIAN LETTER ALEPHcSMALL ALEPHcBETHcGIMELcDALETHcHEcWAWcCURLED WAWcZAYIN"),
   (0x10FB9, "cHETHcYODHcKAPHcLAMEDHcMEMcNUNcSAMEKHcAYINcPEcRESHcSHINcTAWbNUMBER ONEcTWO"),
   (0x10FC7, "cTHREEcFOURcTENcTWENTYcONE HUNDRED"),
   (0x10FE0, "aELYMAIC LETTER ALEPHcBETHcGIMELcDALETHcHEcWAWcZAYINcHETHcTETHcYODHcKAPH"),
   (0x10FEB, "cLAMEDHcMEMcNUNcSAMEKHcAYINcPEcSADHEcQOPHcRESHcSHINcTAWbLIGATURE ZAYIN-YODH"),
   (0x11000, "aBRAHMI SIGN CANDRABINDUcANUSVARAcVISARGAcJIHVAMULIYAcUPADHMANIYAbLETTER AcAA"),
   (0x11007, "cIcIIcUcUUcVOCALIC RdRRdLdLLcEcAIcOcAUcKAcKHAcGAcGHAcNGAcCAcCHAcJAcJHAcNYAcTTA"),
   (0x1101E, "cTTHAcDDAcDDHAcNNAcTAcTHAcDAcDHAcNAcPAcPHAcBAcBHAcMAcYAcRAcLAcVAcSHAcSSAcSAcHA"),
   (0x11034, "cLLAcOLD TAMIL LLLAeRRAeNNNAbVOWEL SIGN AAdBHATTIPROLU AAdIdIIdUdUUdVOCALIC R"),
   (0x1103F, "eRReLeLLdEdAIdOdAUbVIRAMAbDANDAbDOUBLE DANDAbPUNCTUATION DOTcDOUBLE DOTcLINE"),
   (0x1104C, "cCRESCENT BARcLOTUS"),
   (0x11052, "bNUMBER ONEcTWOcTHREEcFOURcFIVEcSIXcSEVENcEIGHTcNINEcTENcTWENTYcTHIRTYcFORTY"),
   (0x1105F, "cFIFTYcSIXTYcSEVENTYcEIGHTYcNINETYcONE HUNDREDdTHOUSANDbDIGIT ZEROcONEcTWO"),
   (0x11069, "cTHREEcFOURcFIVEcSIXcSEVENcEIGHTcNINEbSIGN OLD TAMIL VIRAMA"),
   (0x11071, "bLETTER OLD TAMIL SHORT EfObVOWEL SIGN OLD TAMIL SHORT EgO"),
   (0x11075, "bLETTER OLD TAMIL LLA"),
   (0x1107F, "bNUMBER JOINERaKAITHI SIGN CANDRABINDUcANUSVARAcVISARGAbLETTER AcAAcIcIIcUcUU"),
   (0x11089, "cEcAIcOcAUcKAcKHAcGAcGHAcNGAcCAcCHAcJAcJHAcNYAcTTAcTTHAcDDAcDDDHAcDDHAcRHAcNNA"),
   (0x1109E, "cTAcTHAcDAcDHAcNAcPAcPHAcBAcBHAcMAcYAcRAcLAcVAcSHAcSSAcSAcHAbVOWEL SIGN AAdI"),
   (0x110B2, "dIIdUdUUdEdAIdOdAUbSIGN VIRAMAcNUKTAbABBREVIATION SIGNbENUMERATION SIGN"),
   (0x110BD, "bNUMBER SIGNbSECTION MARKbDOUBLE SECTION MARKbDANDAbDOUBLE DANDA"),
   (0x110C2, "bVOWEL SIGN VOCALIC R"),
   (0x110CD, "bNUMBER SIGN ABOVE"),
   (0x110D0, "aSORA SOMPENG LETTER SAHdTAHdBAHdCAHdDAHdGAHdMAHdNGAHdLAHdNAHdVAHdPAHdYAHdRAH"),
   (0x110DE, "dHAHdKAHdJAHdNYAHdAHdEEHdIHdUHdOHdEHdMAE"),
   (0x110F0, "cDIGIT ZEROdONEdTWOdTHREEdFOURdFIVEdSIXdSEVENdEIGHTdNINE"),
   (0x11100, "aCHAKMA SIGN CANDRABINDUcANUSVARAcVISARGAbLETTER AAcIcUcEcKAAcKHAAcGAAcGHAA"),
   (0x1110B, "cNGAAcCAAcCHAAcJAAcJHAAcNYAAcTTAAcTTHAAcDDAAcDDHAAcNNAAcTAAcTHAAcDAAcDHAAcNAA"),
   (0x1111B, "cPAAcPHAAcBAAcBHAAcMAAcYYAAcYAAcRAAcLAAcWAAcSAAcHAAbVOWEL SIGN AdIdIIdUdUUdE"),
   (0x1112D, "dAIdOdAUdOIbO MARKbAU MARKbVIRAMAbMAAYYAA"),
   (0x11136, "bDIGIT ZEROcONEcTWOcTHREEcFOURcFIVEcSIXcSEVENcEIGHTcNINEbSECTION MARKbDANDA"),
   (0x11142, "bDOUBLE DANDAbQUESTION MARKbLETTER LHAAbVOWEL SIGN AAdEIbLETTER VAA"),
   (0x11150, "aMAHAJANI LETTER AcIcUcEcOcKAcKHAcGAcGHAcCAcCHAcJAcJHAcNYAcTTAcTTHAcDDAcDDHA"),
   (0x11162, "cNNAcTAcTHAcDAcDHAcNAcPAcPHAcBAcBHAcMAcRAcLAcVAcSAcHAcRRAbSIGN NUKTA"),
   (0x11174, "bABBREVIATION SIGNbSECTION MARKbLIGATURE SHRI"),
   (0x11180, "aSHARADA SIGN CANDRABINDUcANUSVARAcVISARGAbLETTER AcAAcIcIIcUcUUcVOCALIC RdRR"),
   (0x1118B, "dLdLLcEcAIcOcAUcKAcKHAcGAcGHAcNGAcCAcCHAcJAcJHAcNYAcTTAcTTHAcDDAcDDHAcNNAcTA"),
   (0x111A1, "cTHAcDAcDHAcNAcPAcPHAcBAcBHAcMAcYAcRAcLAcLLAcVAcSHAcSSAcSAcHAbVOWEL SIGN AAdI"),
   (0x111B5, "dIIdUdUUdVOCALIC ReRReLeLLdEdAIdOdAUbSIGN VIRAMAcAVAGRAHAcJIHVAMULIYA"),
   (0x111C3, "cUPADHMANIYAbOMbDANDAbDOUBLE DANDAbABBREVIATION SIGNbSEPARATORbSANDHI MARK"),
   (0x111CA, "bSIGN NUKTAbVOWEL MODIFIER MARKbEXTRA SHORT VOWEL MARKbSUTRA MARK"),
   (0x111CE, "bVOWEL SIGN PRISHTHAMATRA EbSIGN INVERTED CANDRABINDUbDIGIT ZEROcONEcTWOcTHREE"),
   (0x111D4, "cFOURcFIVEcSIXcSEVENcEIGHTcNINEbEKAMbSIGN SIDDHAMbHEADSTROKEbCONTINUATION SIGN"),
   (0x111DE, "bSECTION MARK-1d2"),
   (0x111E1, "aSINHALA ARCHAIC DIGIT ONEdTWOdTHREEdFOURdFIVEdSIXdSEVENdEIGHTdNINEcNUMBER TEN"),
   (0x111EB, "dTWENTYdTHIRTYdFORTYdFIFTYdSIXTYdSEVENTYdEIGHTYdNINETYdONE HUNDREDeTHOUSAND"),
   (0x11200, "aKHOJKI LETTER AcAAcIcUcEcAIcOcAUcKAcKHAcGAcGGAcGHAcNGAcCAcCHAcJAcJJA"),
   (0x11213, "cNYAcTTAcTTHAcDDAcDDHAcNNAcTAcTHAcDAcDDDAcDHAcNAcPAcPHAcBAcBBAcBHAcMAcYAcRAcLA"),
   (0x11228, "cVAcSAcHAcLLAbVOWEL SIGN AAdIdIIdUdEdAIdOdAUbSIGN ANUSVARAcVIRAMAcNUKTAcSHADDA"),
   (0x11238, "bDANDAbDOUBLE DANDAbWORD SEPARATORbSECTION MARKbDOUBLE SECTION MARK"),
   (0x1123D, "bABBREVIATION SIGNbSIGN SUKUN"),
   (0x11280, "aMULTANI LETTER AcIcUcEcKAcKHAcGA"),
   (0x11288, "cGHA"),
   (0x1128A, "cCAcCHAcJAcJJA"),
   (0x1128F, "cNYAcTTAcTTHAcDDAcDDDAcDDHAcNNAcTAcTHAcDAcDHAcNAcPAcPHAcBA"),
   (0x1129F, "cBHAcMAcYAcRAcLAcVAcSAcHAcRRAcRHAbSECTION MARK"),
   (0x112B0, "aKHUDAWADI LETTER AcAAcIcIIcUcUUcEcAIcOcAUcKAcKHAcGAcGGAcGHAcNGAcCAcCHAcJAcJJA"),
   (0x112C4, "cJHAcNYAcTTAcTTHAcDDAcDDDAcRRAcDDHAcNNAcTAcTHAcDAcDHAcNAcPAcPHAcBAcBBAcBHAcMA"),
   (0x112D8, "cYAcRAcLAcVAcSHAcSAcHAbSIGN ANUSVARAbVOWEL SIGN AAdIdIIdUdUUdEdAIdOdAU"),
   (0x112E9, "bSIGN NUKTAcVIRAMA"),
   (0x112F0, "bDIGIT ZEROcONEcTWOcTHREEcFOURcFIVEcSIXcSEVENcEIGHTcNINE"),
   (0x11300, "aGRANTHA SIGN COMBINING ANUSVARA ABOVEcCANDRABINDUcANUSVARAcVISARGA"),
   (0x11305, "bLETTER AcAAcIcIIcUcUUcVOCALIC RdL"),
   (0x1130F, "cEEcAI"),
   (0x11313, "cOOcAUcKAcKHAcGAcGHAcNGAcCAcCHAcJAcJHAcNYAcTTAcTTHAcDDAcDDHAcNNAcTAcTHAcDAcDHA"),
   (0x11328, "cNA"),
   (0x1132A, "cPAcPHAcBAcBHAcMAcYAcRA"),
   (0x11332, "cLAcLLA"),
   (0x11335, "cVAcSHAcSSAcSAcHA"),
   (0x1133B, "aCOMBINING BINDU BELOWaGRANTHA SIGN NUKTAcAVAGRAHAbVOWEL SIGN AAdIdIIdUdUU"),
   (0x11343, "dVOCALIC ReRR"),
   (0x11347, "dEEdAI"),
   (0x1134B, "dOOdAUbSIGN VIRAMA"),
   (0x11350, "bOM"),
   (0x11357, "bAU LENGTH MARK"),
   (0x1135D, "bSIGN PLUTAbLETTER VEDIC ANUSVARAdDOUBLE ANUSVARAcVOCALIC RRdLL"),
   (0x11362, "bVOWEL SIGN VOCALIC LeLL"),
   (0x11366, "aCOMBINING GRANTHA DIGIT ZEROdONEdTWOdTHREEdFOURdFIVEdSIX"),
   (0x11370, "cLETTER AdKAdNAdVIdPA"),
   (0x11400, "aNEWA LETTER AcAAcIcIIcUcUUcVOCALIC RdRRdLdLLcEcAIcOcAUcKAcKHAcGAcGHAcNGAcNGHA"),
   (0x11414, "cCAcCHAcJAcJHAcNYAcNYHAcTTAcTTHAcDDAcDDHAcNNAcTAcTHAcDAcDHAcNAcNHAcPAcPHAcBA"),
   (0x11428, "cBHAcMAcMHAcYAcRAcRHAcLAcLHAcWAcSHAcSSAcSAcHAbVOWEL SIGN AAdIdIIdUdUU"),
   (0x1143A, "dVOCALIC ReRReLeLLdEdAIdOdAUbSIGN VIRAMAcCANDRABINDUcANUSVARAcVISARGAcNUKTA"),
   (0x11447, "cAVAGRAHAcFINAL ANUSVARAbOMbSIDDHIbDANDAbDOUBLE DANDAbCOMMAbGAP FILLER"),
   (0x1144F, "bABBREVIATION SIGNbDIGIT ZEROcONEcTWOcTHREEcFOURcFIVEcSIXcSEVENcEIGHTcNINE"),
   (0x1145A, "bDOUBLE COMMAbPLACEHOLDER MARK"),
   (0x1145D, "bINSERTION SIGNbSANDHI MARKbLETTER VEDIC ANUSVARAbSIGN JIHVAMULIYAcUPADHMANIYA"),
   (0x11480, "aTIRHUTA ANJIbLETTER AcAAcIcIIcUcUUcVOCALIC RdRRdLdLLcEcAIcOcAUcKAcKHAcGAcGHA"),
   (0x11493, "cNGAcCAcCHAcJAcJHAcNYAcTTAcTTHAcDDAcDDHAcNNAcTAcTHAcDAcDHAcNAcPAcPHAcBAcBHAcMA"),
   (0x114A8, "cYAcRAcLAcVAcSHAcSSAcSAcHAbVOWEL SIGN AAdIdIIdUdUUdVOCALIC ReRReLeLLdEdSHORT E"),
   (0x114BB, "dAIdOdSHORT OdAUbSIGN CANDRABINDUcANUSVARAcVISARGAcVIRAMAcNUKTAcAVAGRAHAbGVANG"),
   (0x114C6, "bABBREVIATION SIGNbOM"),
   (0x114D0, "bDIGIT ZEROcONEcTWOcTHREEcFOURcFIVEcSIXcSEVENcEIGHTcNINE"),
   (0x11580, "aSIDDHAM LETTER AcAAcIcIIcUcUUcVOCALIC RdRRdLdLLcEcAIcOcAUcKAcKHAcGAcGHAcNGA"),
   (0x11593, "cCAcCHAcJAcJHAcNYAcTTAcTTHAcDDAcDDHAcNNAcTAcTHAcDAcDHAcNAcPAcPHAcBAcBHAcMAcYA"),
   (0x115A8, "cRAcLAcVAcSHAcSSAcSAcHAbVOWEL SIGN AAdIdIIdUdUUdVOCALIC ReRR"),
   (0x115B8, "dEdAIdOdAUbSIGN CANDRABINDUcANUSVARAcVISARGAcVIRAMAcNUKTAcSIDDHAMbDANDA"),
   (0x115C3, "bDOUBLE DANDAbSEPARATOR DOTcBARbREPETITION MARK-1d2d3bEND OF TEXT MARK"),
   (0x115CA, "bSECTION MARK WITH TRIDENT AND U-SHAPED ORNAMENTSgDOTTED CRESCENTS"),
   (0x115CC, "eRAYS AND DOTTED CRESCENTShDOUBLE CRESCENTShTRIPLE CRESCENTSdDOUBLE RING"),
   (0x115D0, "eRING WITH RAYSdWITH DOUBLE CRESCENTSeTRIPLE CRESCENTSeQUADRUPLE CRESCENTS"),
   (0x115D4, "eSEPTUPLE CRESCENTSeCIRCLES AND RAYSgTWO ENCLOSURESgFOUR ENCLOSURES"),
   (0x115D8, "bLETTER THREE-CIRCLE ALTERNATE IcTWO-CIRCLE ALTERNATE IfIIcALTERNATE U"),
   (0x115DC, "bVOWEL SIGN ALTERNATE UeUU"),
   (0x11600, "aMODI LETTER AcAAcIcIIcUcUUcVOCALIC RdRRdLdLLcEcAIcOcAUcKAcKHAcGAcGHAcNGAcCA"),
   (0x11614, "cCHAcJAcJHAcNYAcTTAcTTHAcDDAcDDHAcNNAcTAcTHAcDAcDHAcNAcPAcPHAcBAcBHAcMAcYAcRA"),
   (0x11629, "cLAcVAcSHAcSSAcSAcHAcLLAbVOWEL SIGN AAdIdIIdUdUUdVOCALIC ReRReLeLLdEdAIdOdAU"),
   (0x1163D, "bSIGN ANUSVARAcVISARGAcVIRAMAcARDHACANDRAbDANDAbDOUBLE DANDAbABBREVIATION SIGN"),
   (0x11644, "bSIGN HUVA"),
   (0x11650, "bDIGIT ZEROcONEcTWOcTHREEcFOURcFIVEcSIXcSEVENcEIGHTcNINE"),
   (0x11660, "aMONGOLIAN BIRGA WITH ORNAMENTbROTATED BIRGAbDOUBLE BIRGA WITH ORNAMENT"),
   (0x11663, "bTRIPLE BIRGA WITH ORNAMENTbBIRGA WITH DOUBLE ORNAMENT"),
   (0x11665, "bROTATED BIRGA WITH ORNAMENTeDOUBLE ORNAMENTbINVERTED BIRGA"),
   (0x11668, "cBIRGA WITH DOUBLE ORNAMENTbSWIRL BIRGAcBIRGA WITH ORNAMENTeDOUBLE ORNAMENT"),
   (0x1166C, "bTURNED SWIRL BIRGA WITH DOUBLE ORNAMENT"),
   (0x11680, "aTAKRI LETTER AcAAcIcIIcUcUUcEcAIcOcAUcKAcKHAcGAcGHAcNGAcCAcCHAcJAcJHAcNYAcTTA"),
   (0x11695, "cTTHAcDDAcDDHAcNNAcTAcTHAcDAcDHAcNAcPAcPHAcBAcBHAcMAcYAcRAcLAcVAcSHAcSAcHAcRRA"),
   (0x116AB, "bSIGN ANUSVARAcVISARGAbVOWEL SIGN AAdIdIIdUdUUdEdAIdOdAUbSIGN VIRAMAcNUKTA"),
   (0x116B8, "bLETTER ARCHAIC KHAbABBREVIATION SIGN"),
   (0x116C0, "bDIGIT ZEROcONEcTWOcTHREEcFOURcFIVEcSIXcSEVENcEIGHTcNINE"),
   (0x11700, "aAHOM LETTER KAcKHAcNGAcNAcTAcALTERNATE TAcPAcPHAcBAcMAcJAcCHAcTHAcRAcLAcSA"),
   (0x11710, "cNYAcHAcAcDAcDHAcGAcALTERNATE GAcGHAcBHAcJHAcALTERNATE BA"),
   (0x1171D, "bCONSONANT SIGN MEDIAL LAeRAeLIGATING RAbVOWEL SIGN AdAAdIdIIdUdUUdEdAWdOdAI"),
   (0x1172A, "dAMbSIGN KILLER"),
   (0x11730, "bDIGIT ZEROcONEcTWOcTHREEcFOURcFIVEcSIXcSEVENcEIGHTcNINEbNUMBER TENcTWENTY"),
   (0x1173C, "bSIGN SMALL SECTIONcSECTIONcRULAIbSYMBOL VIbLETTER CAcTTAcTTHAcDDAcDDHAcNNA"),
   (0x11746, "cLLA"),
   (0x11800, "aDOGRA LETTER AcAAcIcIIcUcUUcEcAIcOcAUcKAcKHAcGAcGHAcNGAcCAcCHAcJAcJHAcNYAcTTA"),
   (0x11815, "cTTHAcDDAcDDHAcNNAcTAcTHAcDAcDHAcNAcPAcPHAcBAcBHAcMAcYAcRAcLAcVAcSHAcSSAcSAcHA"),
   (0x1182B, "cRRAbVOWEL SIGN AAdIdIIdUdUUdVOCALIC ReRRdEdAIdOdAUbSIGN ANUSVARAcVISARGA"),
   (0x11839, "cVIRAMAcNUKTAbABBREVIATION SIGN"),
   (0x118A0, "aWARANG CITI CAPITAL LETTER NGAAeAeWIeYUeYAeYOeIIeUUeEeOeANGeGAeKOeENYeYUJeUC"),
   (0x118B0, "eENNeODDeTTEeNUNGeDAeATeAMeBUePUeHIYOeHOLOeHORReHAReSSUUeSIIeVIYO"),
   (0x118C0, "cSMALL LETTER NGAAeAeWIeYUeYAeYOeIIeUUeEeOeANGeGAeKOeENYeYUJeUCeENNeODDeTTE"),
   (0x118D3, "eNUNGeDAeATeAMeBUePUeHIYOeHOLOeHORReHAReSSUUeSIIeVIYOcDIGIT ZEROdONEdTWOdTHREE"),
   (0x118E4, "dFOURdFIVEdSIXdSEVENdEIGHTdNINEcNUMBER TENdTWENTYdTHIRTYdFORTYdFIFTYdSIXTY"),
   (0x118F0, "dSEVENTYdEIGHTYdNINETY"),
   (0x118FF, "cOMaDIVES AKURU LETTER AdAAdIdIIdUdUUdE"),
   (0x11909, "dO"),
   (0x1190C, "dKAdKHAdGAdGHAdNGAdCAdCHAdJA"),
   (0x11915, "dNYAdTTA"),
   (0x11918, "dDDAdDDHAdNNAdTAdTHAdDAdDHAdNAdPAdPHAdBAdBHAdMAdYAdYYAdRAdLAdVAdSHAdSSAdSAdHA"),
   (0x1192E, "dLLAdZAcVOWEL SIGN AAeIeIIeUeUUeE"),
   (0x11937, "eAIeO"),
   (0x1193B, "cSIGN ANUSVARAdCANDRABINDUdHALANTAcVIRAMAcPREFIXED NASAL SIGNcMEDIAL YA"),
   (0x11941, "cINITIAL RAcMEDIAL RAcSIGN NUKTAcDOUBLE DANDAcGAP FILLERcEND OF TEXT MARK"),
   (0x11950, "cDIGIT ZEROdONEdTWOdTHREEdFOURdFIVEdSIXdSEVENdEIGHTdNINE"),
   (0x119A0, "aNANDINAGARI LETTER AcAAcIcIIcUcUUcVOCALIC RdRR"),
   (0x119AA, "cEcAIcOcAUcKAcKHAcGAcGHAcNGAcCAcCHAcJAcJHAcNYAcTTAcTTHAcDDAcDDHAcNNAcTAcTHAcDA"),
   (0x119C0, "cDHAcNAcPAcPHAcBAcBHAcMAcYAcRAcLAcVAcSHAcSSAcSAcHAcLLAcRRAbVOWEL SIGN AAdIdII"),
   (0x119D4, "dUdUUdVOCALIC ReRR"),
   (0x119DA, "dEdAIdOdAUbSIGN ANUSVARAcVISARGAcVIRAMAcAVAGRAHAcSIDDHAMbHEADSTROKE"),
   (0x119E4, "bVOWEL SIGN PRISHTHAMATRA E"),
   (0x11A00, "aZANABAZAR SQUARE LETTER AcVOWEL SIGN IeUEeUeEeOEeOeAIeAUeREVERSED I"),
   (0x11A0A, "dLENGTH MARKcLETTER KAdKHAdGAdGHAdNGAdCAdCHAdJAdNYAdTTAdTTHAdDDAdDDHAdNNAdTA"),
   (0x11A1A, "dTHAdDAdDHAdNAdPAdPHAdBAdBHAdMAdTSAdTSHAdDZAdDZHAdZHAdZAd-AdYAdRAdLAdVAdSHA"),
   (0x11A2F, "dSSAdSAdHAdKSSAcFINAL CONSONANT MARKcSIGN VIRAMAdCANDRABINDU"),
   (0x11A36, "dCANDRABINDU WITH ORNAMENTdCANDRA WITH ORNAMENTdANUSVARAdVISARGA"),
   (0x11A3A, "cCLUSTER-INITIAL LETTER RAdFINAL LETTER YAfRAfLAfVAcINITIAL HEAD MARK"),
   (0x11A40, "cCLOSING HEAD MARKcMARK TSHEGdSHADdDOUBLE SHADdLONG TSHEG"),
   (0x11A45, "cINITIAL DOUBLE-LINED HEAD MARKcCLOSING DOUBLE-LINED HEAD MARKcSUBJOINER"),
   (0x11A50, "aSOYOMBO LETTER AbVOWEL SIGN IdUEdUdEdOdOEdAIdAUdVOCALIC ReLcLENGTH MARK"),
   (0x11A5C, "bLETTER KAcKHAcGAcGHAcNGAcCAcCHAcJAcJHAcNYAcTTAcTTHAcDDAcDDHAcNNAcTAcTHAcDA"),
   (0x11A6E, "cDHAcNAcPAcPHAcBAcBHAcMAcTSAcTSHAcDZAcZHAcZAc-AcYAcRAcLAcVAcSHAcSSAcSAcHAcKSSA"),
   (0x11A84, "bSIGN JIHVAMULIYAcUPADHMANIYAbCLUSTER-INITIAL LETTER RAeLAeSHAeSA"),
   (0x11A8A, "bFINAL CONSONANT SIGN GeKeNGeDeNeBeMeReLeSHeSe-AbSIGN ANUSVARAcVISARGA"),
   (0x11A98, "bGEMINATION MARKbSUBJOINERbMARK TSHEGcSHADcDOUBLE SHADcPLUTA"),
   (0x11A9E, "bHEAD MARK WITH MOON AND SUN AND TRIPLE FLAMEiFLAMEgSUNbTERMINAL MARK-1d2"),
   (0x11AB0, "aCANADIAN SYLLABICS NATTILIK HIdHIIdHOdHOOdHAdHAAdSHRIdSHRIIdSHROdSHROOdSHRA"),
   (0x11ABB, "dSHRAAcSPEcSPIcSPOcSPAaPAU CIN HAU LETTER PAeKAeLAeMAeDAeZAeVAeNGAeHAeGAeKHA"),
   (0x11ACB, "eSAeBAeCAeTAeTHAeNAePHAeRAeFAeCHAeAeEeIeOeUeUAeIAeFINAL PfKfTfMfNfLfWfNGfY"),
   (0x11AE5, "dRISING TONE LONGeTONEdSANDHI GLOTTAL STOPdRISING TONE LONG FINALfFINAL"),
   (0x11AEA, "dSANDHI GLOTTAL STOP FINALeTONE LONGeTONEeTONE LONG FINALfFINALdMID-LEVEL TONE"),
   (0x11AF0, "dGLOTTAL STOP VARIANTdMID-LEVEL TONE LONG FINALgFINALdLOW-FALLING TONE LONG"),
   (0x11AF4, "fTONEdGLOTTAL STOPdLOW-FALLING TONE LONG FINALgFINALdGLOTTAL STOP FINAL"),
   (0x11C00, "aBHAIKSUKI LETTER AcAAcIcIIcUcUUcVOCALIC RdRRdL"),
   (0x11C0A, "cEcAIcOcAUcKAcKHAcGAcGHAcNGAcCAcCHAcJAcJHAcNYAcTTAcTTHAcDDAcDDHAcNNAcTAcTHAcDA"),
   (0x11C20, "cDHAcNAcPAcPHAcBAcBHAcMAcYAcRAcLAcVAcSHAcSSAcSAcHAbVOWEL SIGN AAdIdIIdUdUU"),
   (0x11C34, "dVOCALIC ReRReL"),
   (0x11C38, "dEdAIdOdAUbSIGN CANDRABINDUcANUSVARAcVISARGAcVIRAMAcAVAGRAHAbDANDA"),
   (0x11C42, "bDOUBLE DANDAbWORD SEPARATORbGAP FILLER-1d2"),
   (0x11C50, "bDIGIT ZEROcONEcTWOcTHREEcFOURcFIVEcSIXcSEVENcEIGHTcNINEbNUMBER ONEcTWOcTHREE"),
   (0x11C5D, "cFOURcFIVEcSIXcSEVENcEIGHTcNINEcTENcTWENTYcTHIRTYcFORTYcFIFTYcSIXTYcSEVENTY"),
   (0x11C6A, "cEIGHTYcNINETYbHUNDREDS UNIT MARK"),
   (0x11C70, "aMARCHEN HEAD MARKbMARK SHADbLETTER KAcKHAcGAcNGAcCAcCHAcJAcNYAcTAcTHAcDAcNA"),
   (0x11C7E, "cPAcPHAcBAcMAcTSAcTSHAcDZAcWAcZHAcZAc-AcYAcRAcLAcSHAcSAcHAcA"),
   (0x11C92, "bSUBJOINED LETTER KAdKHAdGAdNGAdCAdCHAdJAdNYAdTAdTHAdDAdNAdPAdPHAdBAdMAdTSA"),
   (0x11CA3, "dTSHAdDZAdWAdZHAdZA"),
   (0x11CA9, "dYAdRAdLAdSHAdSAdHAdAbVOWEL SIGN AAdIdUdEdObSIGN ANUSVARAcCANDRABINDU"),
   (0x11D00, "aMASARAM GONDI LETTER AdAAdIdIIdUdUUdE"),
   (0x11D08, "dAIdO"),
   (0x11D0B, "dAUdKAdKHAdGAdGHAdNGAdCAdCHAdJAdJHAdNYAdTTAdTTHAdDDAdDDHAdNNAdTAdTHAdDAdDHAdNA"),
   (0x11D20, "dPAdPHAdBAdBHAdMAdYAdRAdLAdVAdSHAdSSAdSAdHAdLLAdKSSAdJNYAdTRAcVOWEL SIGN AAeI"),
   (0x11D33, "eIIeUeUUeVOCALIC R"),
   (0x11D3A, "eE"),
   (0x11D3C, "eAIeO"),
   (0x11D3F, "eAUcSIGN ANUSVARAdVISARGAdNUKTAdCANDRAdHALANTAcVIRAMAcREPHAcRA-KARA"),
   (0x11D50, "cDIGIT ZEROdONEdTWOdTHREEdFOURdFIVEdSIXdSEVENdEIGHTdNINE"),
   (0x11D60, "aGUNJALA GONDI LETTER AdAAdIdIIdUdUU"),
   (0x11D67, "dEEdAI"),
   (0x11D6A, "dOOdAUdYAdVAdBAdBHAdMAdKAdKHAdTAdTHAdLAdGAdGHAdDAdDHAdNAdCAdCHAdTTAdTTHAdLLA"),
   (0x11D80, "dJAdJHAdDDAdDDHAdNGAdPAdPHAdHAdRAdSAcVOWEL SIGN AAeIeIIeUeUU"),
   (0x11D90, "eEEeAI"),
   (0x11D93, "eOOeAUcSIGN ANUSVARAdVISARGAcVIRAMAcOM"),
   (0x11DA0, "cDIGIT ZEROdONEdTWOdTHREEdFOURdFIVEdSIXdSEVENdEIGHTdNINE"),
   (0x11EE0, "aMAKASAR LETTER KAcGAcNGAcPAcBAcMAcTAcDAcNAcCAcJAcNYAcYAcRAcLAcVAcSAcAbANGKA"),
   (0x11EF3, "bVOWEL SIGN IdUdEdObPASSIMBANGbEND OF SECTION"),
   (0x11FB0, "aLISU LETTER YHA"),
   (0x11FC0, "aTAMIL FRACTION ONE THREE-HUNDRED-AND-TWENTIETHdONE-HUNDRED-AND-SIXTIETH"),
   (0x11FC2, "dEIGHTIETHdSIXTY-FOURTHdFORTIETHdTHIRTY-SECONDcTHREE EIGHTIETHSdSIXTY-FOURTHS"),
   (0x11FC8, "cONE TWENTIETHdSIXTEENTH-1e2dTENTHdEIGHTHcTHREE TWENTIETHSdSIXTEENTHS"),
   (0x11FCF, "cONE FIFTHdQUARTERdHALF-1e2cTHREE QUARTERScDOWNSCALING FACTOR KIIZHbSIGN NEL"),
   (0x11FD6, "cCEVITUcAAZHAAKKUcUZHAKKUcMUUVUZHAKKUcKURUNIcPATHAKKUcMUKKURUNIcKAACUcPANAM"),
   (0x11FDF, "cPONcVARAAKANcPAARAMcKUZHIcVELIbWET CULTIVATION SIGNbDRY CULTIVATION SIGN"),
   (0x11FE6, "bLAND SIGNbSALT PAN SIGNbTRADITIONAL CREDIT SIGNcNUMBER SIGNbCURRENT SIGN"),
   (0x11FEB, "bAND ODD SIGNbSPENT SIGNbTOTAL SIGNbIN POSSESSION SIGNbSTARTING FROM SIGN"),
   (0x11FF0, "bSIGN MUTHALIYAcVAKAIYARAA"),
   (0x11FFF, "bPUNCTUATION END OF TEXT")]

end RecordAudit.Text.CharacterName

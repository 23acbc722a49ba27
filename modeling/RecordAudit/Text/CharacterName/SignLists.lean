/-!
# Names of cuneiform signs and hieroglyphs

The characters from U+12000 to U+16FFF. Each line gives the code point of its first name; the names
of the characters after it follow, each behind a small letter that tells how many words it shares
with the name before it.
-/

namespace RecordAudit.Text.CharacterName

def signLists : List (Nat × String) :=
  [(0x12000, "aCUNEIFORM SIGN AcA TIMES AeBADeGAN2 TENUeHAeIGIeLAGAR GUNUeMUSHeSAGcA2cAB"),
   (0x1200B, "cAB TIMES ASH2eDUN3 GUNUeGALeGAN2 TENUeHAeIGI GUNUeIMINeLAGABeSHESH"),
   (0x12014, "eU PLUS U PLUS UdGUNUcAB2cAB2 TIMES BALAGeGAN2 TENUeME PLUS ENeSHA3eTAK4cADcAK"),
   (0x1201E, "cAK TIMES ERIN2eSHITA PLUS GISHcALcAL TIMES ALeDIM2eGISHeHAeKAD3eKIeSHEeUSH"),
   (0x12029, "cALANcALEPHcAMARcAMAR TIMES SHEcANcAN OVER ANdTHREE TIMES"),
   (0x12030, "dPLUS NAGA OPPOSING AN PLUS NAGAfSQUAREDcANSHEcAPINcARADcARAD TIMES KURcARKAB"),
   (0x12037, "cASAL2cASHcASH ZIDA TENUdKABA TENUdOVER ASH TUG2 OVER TUG2 TUG2 OVER TUG2 PAP"),
   (0x1203C, "fOVER ASHgASH CROSSING ASH OVER ASH OVER ASHcASH2cASHGABcBAcBADcBAG3cBAHAR2"),
   (0x12044, "cBALcBAL OVER BALcBALAGcBARcBARA2cBIcBI TIMES AeGAReIGI GUNUcBUcBU OVER BU AB"),
   (0x1204F, "fUNdCROSSING BUcBULUGcBULUG OVER BULUGcBURcBUR2cDAcDAG"),
   (0x12057, "cDAG KISIM5 TIMES A PLUS MASHfAMARfBALAGfBIfGAfGA PLUS MASHfGIfGIR2fGUDfHAfIR"),
   (0x12062, "fIR PLUS LUfKAKfLAfLUfLU PLUS MASH2fLUMfNEfPAP PLUS PAPfSIfTAK4fU2 PLUS GIR2"),
   (0x1206D, "fUSHcDAMcDARcDARA3cDARA4cDIcDIBcDIMcDIM TIMES SHEcDIM2cDIN"),
   (0x12078, "cDIN KASKAL U GUNU DISHcDISHcDUcDU OVER DUdGUNUdSHESHIGcDUBcDUB TIMES ESH2"),
   (0x12080, "cDUB2cDUGcDUGUDcDUHcDUNcDUN3cDUN3 GUNUdGUNU GUNUcDUN4cDUR2cEcE TIMES PAP"),
   (0x1208C, "dOVER E NUN OVER NUNcE2cE2 TIMES A PLUS HA PLUS DAeGAReMIeSALeSHEeUcEDINcEGIR"),
   (0x12096, "cELcENcEN TIMES GAN2eGAN2 TENUeMEdCROSSING ENdOPPOSING ENdSQUAREDcERENcERIN2"),
   (0x120A0, "cESH2cEZENcEZEN TIMES AeA PLUS LALgLAL TIMES LALeANeBADeDUN3 GUNUfGUNU GUNUeHA"),
   (0x120AA, "eHA GUNUeIGI GUNUeKASKALeKASKAL SQUAREDeKU3eLAeLAL TIMES LALeLIeLUeU2eUDcGA"),
   (0x120B6, "cGA GUNUcGA2cGA2 TIMES A PLUS DA PLUS HAgHAgIGIeAB2 TENU PLUS TABeANeASH"),
   (0x120BE, "eASH2 PLUS GALeBADeBAR PLUS RAeBUReBUR PLUS RAeDAeDIeDIM TIMES SHEeDUBeEL"),
   (0x120C8, "eEL PLUS LAeENeEN TIMES GAN2 TENUeGAN2 TENUeGAReGIeGI4eGI4 PLUS AeGIR2 PLUS SU"),
   (0x120D1, "eHA PLUS LU PLUS ESH2eHALeHAL PLUS LAeHI PLUS LIeHUB2eIGI GUNU"),
   (0x120D7, "eISH PLUS HU PLUS ASHeKAKeKASKALeKIDeKID PLUS LALeKU3 PLUS ANeLAeME PLUS ENeMI"),
   (0x120E0, "eNUNeNUN OVER NUNePAeSALeSAReSHEeSHE PLUS TUReSHIDeSUMeTAK4eUeUDeUD PLUS DU"),
   (0x120ED, "dOVER GA2cGABAcGABA CROSSING GABAcGADcGAD OVER GAD GAR OVER GARcGAL"),
   (0x120F3, "cGAL GAD OVER GAD GAR OVER GARcGALAMcGAMcGANcGAN2cGAN2 TENUdOVER GAN2"),
   (0x120FA, "dCROSSING GAN2cGARcGAR3cGASHANcGESHTINcGESHTIN TIMES KURcGIcGI TIMES EeU"),
   (0x12103, "dCROSSING GIcGI4cGI4 OVER GI4dCROSSING GI4cGIDIMcGIR2cGIR2 GUNUcGIR3"),
   (0x1210B, "cGIR3 TIMES A PLUS IGIeGAN2 TENUeIGIeLU PLUS IGIePAcGISALcGISH"),
   (0x12112, "cGISH CROSSING GISHdTIMES BADeTAK4dTENUcGUcGU CROSSING GUcGU2cGU2 TIMES KAK"),
   (0x1211A, "eKAK TIMES IGI GUNUeNUNeSAL PLUS TUG2dGUNUcGUDcGUD TIMES A PLUS KUReKUR"),
   (0x12121, "dOVER GUD LUGALcGULcGUMcGUM TIMES SHEcGURcGUR7cGURUNcGURUSHcHAcHA TENUdGUNU"),
   (0x1212C, "cHALcHIcHI TIMES ASHeASH2eBADeDISHeGADeKINeNUNeSHEeUcHUcHUB2cHUB2 TIMES ANeHAL"),
   (0x1213B, "eKASKALeLISHeUDcHUL2cIcI AcIBcIDIMcIDIM OVER IDIM BURfSQUAREDcIGcIGIcIGI DIB"),
   (0x12148, "dRIdOVER IGI SHIR OVER SHIR UD OVER UDdGUNUcILcIL TIMES GAN2 TENUcIL2cIM"),
   (0x1214F, "cIM TIMES TAK4dCROSSING IMdOPPOSING IMdSQUAREDcIMINcINcIRcISHcKAcKA TIMES AeAD"),
   (0x1215A, "eAD PLUS KU3eASH2eBADeBALAGeBAReBIeERIN2eESH2eGAeGALeGAN2 TENUeGAR"),
   (0x12166, "eGAR PLUS SHA3 PLUS AeGIeGIR2eGISH PLUS SARfCROSSING GISHeGUeGUR7eIGIeIMeKAK"),
   (0x12170, "eKIeKIDeLIeLUeMEeME PLUS DUgGIgTEeMIeMI PLUS NUNUZeNEeNUNePIeRUeSAeSAReSHAeSHE"),
   (0x12182, "eSHIDeSHUeSIGeSUHUReTAReUeU2eUDeUMUM TIMES PAeUSHeZIcKA2cKA2 CROSSING KA2cKAB"),
   (0x12190, "cKAD2cKAD3cKAD4cKAD5cKAD5 OVER KAD5cKAKcKAK TIMES IGI GUNUcKALcKAL TIMES BAD"),
   (0x12199, "dCROSSING KALcKAM2cKAM4cKASKALcKASKAL LAGAB TIMES U OVER LAGAB TIMES U"),
   (0x1219E, "dOVER KASKAL LAGAB TIMES U OVER LAGAB TIMES UcKESH2cKIcKI TIMES BADeUeUDcKID"),
   (0x121A5, "cKINcKISALcKISHcKISIM5cKISIM5 OVER KISIM5cKU"),
   (0x121AB, "cKU OVER HI TIMES ASH2 KU OVER HI TIMES ASH2cKU3cKU4cKU4 VARIANT FORMcKU7cKUL"),
   (0x121B1, "cKUL GUNUcKUNcKURcKUR OPPOSING KURcKUSHU2cKWU318cLAcLAGABcLAGAB TIMES A"),
   (0x121BA, "eA PLUS DA PLUS HAgGARgLALeALeANeASH ZIDA TENUeBADeBIeDAReENeGAeGAReGUD"),
   (0x121C7, "eGUD PLUS GUDeHAeHALeHI TIMES NUNeIGI GUNUeIMeIM PLUS HAgLUeKIeKINeKU3eKUL"),
   (0x121D3, "eKUL PLUS HI PLUS AeLAGABeLISHeLUeLULeMEeME PLUS ENeMUSHeNEeSHE PLUS SUM"),
   (0x121DD, "eSHITA PLUS GISH PLUS ERIN2hTENUeSHU2eSHU2 PLUS SHU2eSUMeTAGeTAK4"),
   (0x121E4, "eTE PLUS A PLUS SU PLUS NAeUeU PLUS AgU PLUS UeU2 PLUS ASHeUDeUSHdSQUARED"),
   (0x121EC, "cLAGARcLAGAR TIMES SHEeSHE PLUS SUMdGUNUdGUNU OVER LAGAR GUNU SHEcLAHSHUcLAL"),
   (0x121F3, "cLAL TIMES LALcLAMcLAM TIMES KUReKUR PLUS RUcLIcLILcLIMMU2cLISHcLU"),
   (0x121FC, "cLU TIMES BADcLU2cLU2 TIMES ALeBADeESH2eESH2 TENUeGAN2 TENUeHI TIMES BADeIM"),
   (0x12205, "eKAD2eKAD3eKAD3 PLUS ASHeKIeLA PLUS ASHeLAGABeME PLUS ENeNEeNUeSI PLUS ASH"),
   (0x1220F, "eSIK2 PLUS BUeTUG2dTENUdCROSSING LU2dOPPOSING LU2dSQUAREDdSHESHIGcLU3cLUGAL"),
   (0x12218, "cLUGAL OVER LUGALdOPPOSING LUGALdSHESHIGcLUHcLULcLUMcLUM OVER LUM"),
   (0x1221F, "eLUM GAR OVER GARcMAcMA TIMES TAK4dGUNUcMA2cMAHcMARcMASHcMASH2cMEcMEScMIcMIN"),
   (0x1222C, "cMUcMU OVER MUcMUGcMUG GUNUcMUNSUBcMURGU2cMUSHcMUSH TIMES AeKUReZAdOVER MUSH"),
   (0x12237, "eMUSH TIMES A PLUS NAdCROSSING MUSHcMUSH3cMUSH3 TIMES AeA PLUS DIeDIdGUNUcNA"),
   (0x1223F, "cNA2cNAGAcNAGA INVERTEDdTIMES SHU TENUdOPPOSING NAGAcNAGARcNAM NUTILLUcNAM"),
   (0x12247, "cNAM2cNEcNE TIMES AeUDdSHESHIGcNIcNI TIMES EcNI2cNIMcNIM TIMES GAN2 TENU"),
   (0x12251, "eGAR PLUS GAN2 TENUcNINDA2cNINDA2 TIMES ANeASHeASH PLUS ASHeGUD"),
   (0x12257, "eME PLUS GAN2 TENUeNEeNUNeSHEeSHE PLUS A ANgASHgASH PLUS ASHeU2 PLUS ASHeUSH"),
   (0x12260, "cNISAGcNUcNU11cNUNcNUN LAGAR TIMES GARfMASHfSALfSAL OVER NUN LAGAR TIMES SAL"),
   (0x12268, "fUSHdTENUdOVER NUNdCROSSING NUNeNUN LAGAR OVER LAGARcNUNUZ"),
   (0x1226E, "cNUNUZ AB2 TIMES ASHGABfBIfDUGfGUDfIGI GUNUfKAD3fLAfNEfSILA3fU2"),
   (0x12278, "dKISIM5 TIMES BIfBI UcPAcPADcPANcPAPcPESH2cPIcPI TIMES AeABeBIeBUeEeIeIBeUeU2"),
   (0x12289, "dCROSSING PIcPIRIGcPIRIG TIMES KALeUDeZAdOPPOSING PIRIGcRAcRABcRIcRUcSA"),
   (0x12294, "cSAG NUTILLUcSAGcSAG TIMES AeDUeDUBeHAeKAKeKUReLUMeMIeNUNeSALeSHIDeTABeU2eUB"),
   (0x122A4, "eUMeUReUSHdOVER SAGdGUNUcSALcSAL LAGAB TIMES ASH2cSANGA2cSARcSHAcSHA3"),
   (0x122AF, "cSHA3 TIMES AeBADeGISHeNEeSHU2eTUReUeU PLUS AcSHA6cSHAB6cSHAR2cSHEcSHE HU"),
   (0x122BC, "dOVER SHE GAD OVER GAD GAR OVER GARfTAB OVER TAB GAR OVER GARcSHEG9cSHENcSHESH"),
   (0x122C1, "cSHESH2cSHESHLAMcSHIDcSHID TIMES AeIMcSHIMcSHIM TIMES AeBALeBULUGeDINeGAReIGI"),
   (0x122CD, "eIGI GUNUeKUSHU2eLULeMUGeSALcSHINIGcSHIRcSHIR TENUdOVER SHIR BUR OVER BUR"),
   (0x122D6, "cSHITAcSHUcSHU OVER INVERTED SHUcSHU2cSHUBURcSIcSI GUNUcSIGcSIG4"),
   (0x122DF, "cSIG4 OVER SIG4 SHU2cSIK2cSILA3cSUcSU OVER SUcSUDcSUD2cSUHURcSUMcSUMASHcSUR"),
   (0x122EA, "cSUR9cTAcTA ASTERISKdTIMES HIeMIdGUNUcTAB"),
   (0x122F1, "cTAB OVER TAB NI OVER NI DISH OVER DISHdSQUAREDcTAGcTAG TIMES BIeGUDeSHEeSHU"),
   (0x122F8, "eTUG2eUDcTAK4cTARcTEcTE GUNUcTIcTI TENUcTILcTIRcTIR TIMES TAK4dOVER TIR"),
   (0x12304, "eTIR GAD OVER GAD GAR OVER GARcTUcTUG2cTUKcTUMcTURcTUR OVER TUR ZA OVER ZAcU"),
   (0x1230C, "cU GUDdU UdOVER U PA OVER PA GAR OVER GARfSUR OVER SUR"),
   (0x12310, "fU REVERSED OVER U REVERSEDcU2cUBcUDcUD KUSHU2dTIMES BADeMIeU PLUS U PLUS U"),
   (0x12318, "iU GUNUdGUNUdSHESHIGdSHESHIG TIMES BADcUDUGcUMcUM TIMES LAGABeME PLUS DAeSHA3"),
   (0x12321, "eUcUMBINcUMUMcUMUM TIMES KASKALePAcUNcUN GUNUcURcUR CROSSING URdSHESHIGcUR2"),
   (0x1232C, "cUR2 TIMES A PLUS HAgNAeALeHAeNUNeU2eU2 PLUS ASHgBIcUR4cURIcURI3cURU"),
   (0x12338, "cURU TIMES AeASHGABeBAReDUNeGAeGALeGAN2 TENUeGAReGUeHAeIGIeIMeISHeKIeLUMeMIN"),
   (0x12348, "ePAeSHEeSIG4eTUeU PLUS GUDeUDeURUDAcURUDAcURUDA TIMES UcUSHcUSH TIMES AeKUeKUR"),
   (0x12355, "eTAK4cUSHXcUSH2cUSHUMXcUTUKIcUZ3cUZ3 TIMES KASKALcUZUcZAcZA TENU"),
   (0x1235F, "dSQUARED TIMES KURcZAGcZAMXcZE2cZIcZI OVER ZIcZI3cZIBcZIB KABA TENUcZIGcZIZ2"),
   (0x1236A, "cZUcZU5cZU5 TIMES AcZUBURcZUMcKAP ELAMITEcAB TIMES NUNcAB2 TIMES A"),
   (0x12372, "cAMAR TIMES KUGcDAG KISIM5 TIMES U2 PLUS MASHcDAG3cDISH PLUS SHUcDUB TIMES SHE"),
   (0x12377, "cEZEN TIMES GUDeSHEcGA2 TIMES AN PLUS KAK PLUS AeASH2cGE22cGIGcHUSH"),
   (0x1237E, "cKA TIMES ANSHEeASH3eGISHeGUDeHI TIMES ASH2eLUMePAeSHULeTUeUR2cLAGAB TIMES GI"),
   (0x12389, "cLU2 SHESHIG TIMES BADdTIMES ESH2 PLUS LALeSHUcMESHcMUSH3 TIMES ZAcNA4cNIN"),
   (0x12390, "cNIN9cNINDA2 TIMES BALeGIcNU11 ROTATED NINETY DEGREEScPESH2 ASTERISKcPIR2"),
   (0x12396, "cSAG TIMES IGI GUNUcTI2cUM TIMES MEcU U"),
   (0x12400, "bNUMERIC SIGN TWO ASHdTHREE ASHdFOUR ASHdFIVE ASHdSIX ASHdSEVEN ASHdEIGHT ASH"),
   (0x12407, "dNINE ASHdTHREE DISHdFOUR DISHdFIVE DISHdSIX DISHdSEVEN DISHdEIGHT DISH"),
   (0x1240E, "dNINE DISHdFOUR UdFIVE UdSIX UdSEVEN UdEIGHT UdNINE UdONE GESH2dTWO GESH2"),
   (0x12417, "dTHREE GESH2dFOUR GESH2dFIVE GESH2dSIX GESH2dSEVEN GESH2dEIGHT GESH2"),
   (0x1241D, "dNINE GESH2dONE GESHUdTWO GESHUdTHREE GESHUdFOUR GESHUdFIVE GESHUdTWO SHAR2"),
   (0x12424, "dTHREE SHAR2eSHAR2 VARIANT FORMdFOUR SHAR2dFIVE SHAR2dSIX SHAR2dSEVEN SHAR2"),
   (0x1242A, "dEIGHT SHAR2dNINE SHAR2dONE SHARUdTWO SHARUdTHREE SHARUeSHARU VARIANT FORM"),
   (0x12430, "dFOUR SHARUdFIVE SHARUdSHAR2 TIMES GAL PLUS DISHhMINdONE BURUdTWO BURU"),
   (0x12436, "dTHREE BURUeBURU VARIANT FORMdFOUR BURUdFIVE BURUdTHREE VARIANT FORM ESH16"),
   (0x1243B, "gESH21dFOUR VARIANT FORM LIMMUgLIMMU4gLIMMU AhBdSIX VARIANT FORM ASH9"),
   (0x12441, "dSEVEN VARIANT FORM IMIN3gIMIN AhBdEIGHT VARIANT FORM USSUgUSSU3"),
   (0x12446, "dNINE VARIANT FORM ILIMMUgILIMMU3gILIMMU4gILIMMU AdTWO ASH TENUdTHREE ASH TENU"),
   (0x1244C, "dFOUR ASH TENUdFIVE ASH TENUdSIX ASH TENUdONE BAN2dTWO BAN2dTHREE BAN2"),
   (0x12452, "dFOUR BAN2eBAN2 VARIANT FORMdFIVE BAN2eBAN2 VARIANT FORMdNIGIDAMINdNIGIDAESH"),
   (0x12458, "dONE ESHE3dTWO ESHE3dONE THIRD DISHdTWO THIRDS DISHdFIVE SIXTHS DISH"),
   (0x1245D, "dONE THIRD VARIANT FORM AdTWO THIRDS VARIANT FORM AdONE EIGHTH ASHeQUARTER ASH"),
   (0x12461, "dOLD ASSYRIAN ONE SIXTHgQUARTERdONE QUARTER GUReHALF GURdELAMITE ONE THIRD"),
   (0x12466, "eTWO THIRDSeFORTYeFIFTYdFOUR U VARIANT FORMdFIVE U VARIANT FORM"),
   (0x1246B, "dSIX U VARIANT FORMdSEVEN U VARIANT FORMdEIGHT U VARIANT FORM"),
   (0x1246E, "dNINE U VARIANT FORM"),
   (0x12470, "bPUNCTUATION SIGN OLD ASSYRIAN WORD DIVIDERdVERTICAL COLONdDIAGONAL COLON"),
   (0x12473, "eTRICOLONeQUADCOLON"),
   (0x12480, "bSIGN AB TIMES NUN TENUeSHU2cAD TIMES ESH2cBAD TIMES DISH TENU"),
   (0x12484, "cBAHAR2 TIMES AB2eNIeZAcBU OVER BU TIMES NA2cDA TIMES TAK4cDAG TIMES KUR"),
   (0x1248A, "cDIM TIMES IGIeU U UcDIM2 TIMES UDcDUG TIMES ANSHEeASHeASH AT LEFTeDINeDUN"),
   (0x12492, "eERIN2eGAeGIeGIR2 GUNUeGISHeHAeHIeIGI GUNUeKASKALeKUReKUSHU2"),
   (0x1249D, "eKUSHU2 PLUS KASKALeLAK-020eLAMeLAM TIMES KUReLUH PLUS GISHeMASHeMESeMIeNIePI"),
   (0x124A7, "eSHEeSI GUNUcE2 TIMES KURePAPcERIN2 XcESH2 CROSSING ESH2"),
   (0x124AD, "cEZEN SHESHIG TIMES ASHfHIfIGI GUNUfLAfLALfMEfMESfSUdTIMES SUcGA2 TIMES BAHAR2"),
   (0x124B7, "eDIM GUNUeDUG TIMES IGI GUNUgKASKALeERENeGAeGAR PLUS DIgNEeHA PLUS A"),
   (0x124BF, "eKUSHU2 PLUS KASKALeLAMeLAM TIMES KUReLUHeMUSHeNEeNE PLUS E2gGIeSHIMeZIZ2"),
   (0x124C9, "cGABA ROTATED NINETY DEGREEScGESHTIN TIMES UcGISH TIMES GISH CROSSING GISH"),
   (0x124CC, "cGU2 TIMES IGI GUNUcGUD PLUS GISH TIMES TAK4cHA TENU GUNU"),
   (0x124CF, "cHI TIMES ASH OVER HI TIMES ASHcKA TIMES BUeKAeU U UeURcLAGAB TIMES ZU OVER ZU"),
   (0x124D5, "cLAK-003d021d025d030d050d051d062d079 OVER LAK-079 GUNUd080d081 OVER LAK-081"),
   (0x124DF, "d092d130d142d210d219d220d225d228d238d265d266d343d347d348d383d384d390d441d449"),
   (0x124F2, "d449 TIMES GUfIGIfPAP PLUS LU3hPAP PLUS LU3fU2 PLUS BAd450d457d470d483d490d492"),
   (0x124FD, "d493d495d550d608d617d617 TIMES ASHfBADfDUN3 GUNU GUNUfKU3fLAfTARfTEfU2fUD"),
   (0x1250B, "fURUDAd636d648d648 TIMES DUBfGAfIGIfIGI GUNUfNIfPAP PLUS PAP PLUS LU3"),
   (0x12514, "fSHESH PLUS KIfUDfURUDAd724d749cLU2 GUNU TIMES ASHdTIMES DISHeHALePAP"),
   (0x1251D, "ePAP PLUS PAP PLUS LU3eTAK4cMI PLUS ZA7cMUSH OVER MUSH TIMES GAgKAK"),
   (0x12522, "cNINDA2 TIMES DIM GUNUeGISHeGULeHIeKESH2eLAK-050eMASHePAP PLUS PAPeUeU PLUS U"),
   (0x1252C, "eURUDAcSAG GUNU TIMES HAdTIMES ENeSHE AT LEFTeTAK4cSHA6 TENUcSHE OVER SHE"),
   (0x12533, "dPLUS HUB2eNAM2eSARcSHU2 PLUS DUG TIMES NIeE2 TIMES ANcSI TIMES TAK4"),
   (0x12539, "cTAK4 PLUS SAGcTUM TIMES GAN2 TENUeTHREE DISHcUR2 INVERTEDdTIMES UD"),
   (0x1253E, "cURU TIMES DARA3eLAK-668eLU3cZA7cZU OVER ZU PLUS SARcZU5 TIMES THREE DISH TENU"),
   (0x12F90, "aCYPRO-MINOAN SIGN CM001dCM002dCM004dCM005dCM006dCM007dCM008dCM009dCM010dCM011"),
   (0x12F9A, "dCM012dCM012BdCM013dCM015dCM017dCM019dCM021dCM023dCM024dCM025dCM026dCM027"),
   (0x12FA6, "dCM028dCM029dCM030dCM033dCM034dCM035dCM036dCM037dCM038dCM039dCM040dCM041dCM044"),
   (0x12FB3, "dCM046dCM047dCM049dCM050dCM051dCM052dCM053dCM054dCM055dCM056dCM058dCM059dCM060"),
   (0x12FC0, "dCM061dCM062dCM063dCM064dCM066dCM067dCM068dCM069dCM070dCM071dCM072dCM073dCM074"),
   (0x12FCD, "dCM075dCM075BdCM076dCM078dCM079dCM080dCM081dCM082dCM083dCM084dCM085dCM086"),
   (0x12FD9, "dCM087dCM088dCM089dCM090dCM091dCM092dCM094dCM095dCM096dCM097dCM098dCM099dCM100"),
   (0x12FE6, "dCM101dCM102dCM103dCM104dCM105dCM107dCM108dCM109dCM110dCM112dCM114dCM301dCM302"),
   (0x13000, "aEGYPTIAN HIEROGLYPH A001cA002cA003cA004cA005cA005AcA006cA006AcA006BcA007cA008"),
   (0x1300B, "cA009cA010cA011cA012cA013cA014cA014AcA015cA016cA017cA017AcA018cA019cA020cA021"),
   (0x1301A, "cA022cA023cA024cA025cA026cA027cA028cA029cA030cA031cA032cA032AcA033cA034cA035"),
   (0x13029, "cA036cA037cA038cA039cA040cA040AcA041cA042cA042AcA043cA043AcA044cA045cA045A"),
   (0x13037, "cA046cA047cA048cA049cA050cA051cA052cA053cA054cA055cA056cA057cA058cA059cA060"),
   (0x13046, "cA061cA062cA063cA064cA065cA066cA067cA068cA069cA070cB001cB002cB003cB004cB005"),
   (0x13055, "cB005AcB006cB007cB008cB009cC001cC002cC002AcC002BcC002CcC003cC004cC005cC006"),
   (0x13063, "cC007cC008cC009cC010cC010AcC011cC012cC013cC014cC015cC016cC017cC018cC019cC020"),
   (0x13072, "cC021cC022cC023cC024cD001cD002cD003cD004cD005cD006cD007cD008cD008AcD009cD010"),
   (0x13081, "cD011cD012cD013cD014cD015cD016cD017cD018cD019cD020cD021cD022cD023cD024cD025"),
   (0x13090, "cD026cD027cD027AcD028cD029cD030cD031cD031AcD032cD033cD034cD034AcD035cD036cD037"),
   (0x1309F, "cD038cD039cD040cD041cD042cD043cD044cD045cD046cD046AcD047cD048cD048AcD049cD050"),
   (0x130AE, "cD050AcD050BcD050CcD050DcD050EcD050FcD050GcD050HcD050IcD051cD052cD052AcD053"),
   (0x130BB, "cD054cD054AcD055cD056cD057cD058cD059cD060cD061cD062cD063cD064cD065cD066cD067"),
   (0x130CA, "cD067AcD067BcD067CcD067DcD067EcD067FcD067GcD067HcE001cE002cE003cE004cE005cE006"),
   (0x130D8, "cE007cE008cE008AcE009cE009AcE010cE011cE012cE013cE014cE015cE016cE016AcE017"),
   (0x130E6, "cE017AcE018cE019cE020cE020AcE021cE022cE023cE024cE025cE026cE027cE028cE028AcE029"),
   (0x130F5, "cE030cE031cE032cE033cE034cE034AcE036cE037cE038cF001cF001AcF002cF003cF004cF005"),
   (0x13104, "cF006cF007cF008cF009cF010cF011cF012cF013cF013AcF014cF015cF016cF017cF018cF019"),
   (0x13113, "cF020cF021cF021AcF022cF023cF024cF025cF026cF027cF028cF029cF030cF031cF031AcF032"),
   (0x13122, "cF033cF034cF035cF036cF037cF037AcF038cF038AcF039cF040cF041cF042cF043cF044cF045"),
   (0x13131, "cF045AcF046cF046AcF047cF047AcF048cF049cF050cF051cF051AcF051BcF051CcF052cF053"),
   (0x1313F, "cG001cG002cG003cG004cG005cG006cG006AcG007cG007AcG007BcG008cG009cG010cG011"),
   (0x1314D, "cG011AcG012cG013cG014cG015cG016cG017cG018cG019cG020cG020AcG021cG022cG023cG024"),
   (0x1315C, "cG025cG026cG026AcG027cG028cG029cG030cG031cG032cG033cG034cG035cG036cG036AcG037"),
   (0x1316B, "cG037AcG038cG039cG040cG041cG042cG043cG043AcG044cG045cG045AcG046cG047cG048cG049"),
   (0x1317A, "cG050cG051cG052cG053cG054cH001cH002cH003cH004cH005cH006cH006AcH007cH008cI001"),
   (0x13189, "cI002cI003cI004cI005cI005AcI006cI007cI008cI009cI009AcI010cI010AcI011cI011A"),
   (0x13197, "cI012cI013cI014cI015cK001cK002cK003cK004cK005cK006cK007cK008cL001cL002cL002A"),
   (0x131A6, "cL003cL004cL005cL006cL006AcL007cL008cM001cM001AcM001BcM002cM003cM003AcM004"),
   (0x131B4, "cM005cM006cM007cM008cM009cM010cM010AcM011cM012cM012AcM012BcM012CcM012DcM012E"),
   (0x131C2, "cM012FcM012GcM012HcM013cM014cM015cM015AcM016cM016AcM017cM017AcM018cM019cM020"),
   (0x131D0, "cM021cM022cM022AcM023cM024cM024AcM025cM026cM027cM028cM028AcM029cM030cM031"),
   (0x131DE, "cM031AcM032cM033cM033AcM033BcM034cM035cM036cM037cM038cM039cM040cM040AcM041"),
   (0x131EC, "cM042cM043cM044cN001cN002cN003cN004cN005cN006cN007cN008cN009cN010cN011cN012"),
   (0x131FB, "cN013cN014cN015cN016cN017cN018cN018AcN018BcN019cN020cN021cN022cN023cN024cN025"),
   (0x1320A, "cN025AcN026cN027cN028cN029cN030cN031cN032cN033cN033AcN034cN034AcN035cN035A"),
   (0x13218, "cN036cN037cN037AcN038cN039cN040cN041cN042cNL001cNL002cNL003cNL004cNL005cNL005A"),
   (0x13226, "cNL006cNL007cNL008cNL009cNL010cNL011cNL012cNL013cNL014cNL015cNL016cNL017"),
   (0x13232, "cNL017AcNL018cNL019cNL020cNU001cNU002cNU003cNU004cNU005cNU006cNU007cNU008"),
   (0x1323E, "cNU009cNU010cNU010AcNU011cNU011AcNU012cNU013cNU014cNU015cNU016cNU017cNU018"),
   (0x1324A, "cNU018AcNU019cNU020cNU021cNU022cNU022AcO001cO001AcO002cO003cO004cO005cO005A"),
   (0x13257, "cO006cO006AcO006BcO006CcO006DcO006EcO006FcO007cO008cO009cO010cO010AcO010B"),
   (0x13264, "cO010CcO011cO012cO013cO014cO015cO016cO017cO018cO019cO019AcO020cO020AcO021cO022"),
   (0x13273, "cO023cO024cO024AcO025cO025AcO026cO027cO028cO029cO029AcO030cO030AcO031cO032"),
   (0x13281, "cO033cO033AcO034cO035cO036cO036AcO036BcO036CcO036DcO037cO038cO039cO040cO041"),
   (0x1328F, "cO042cO043cO044cO045cO046cO047cO048cO049cO050cO050AcO050BcO051cP001cP001AcP002"),
   (0x1329E, "cP003cP003AcP004cP005cP006cP007cP008cP009cP010cP011cQ001cQ002cQ003cQ004cQ005"),
   (0x132AD, "cQ006cQ007cR001cR002cR002AcR003cR003AcR003BcR004cR005cR006cR007cR008cR009cR010"),
   (0x132BC, "cR010AcR011cR012cR013cR014cR015cR016cR016AcR017cR018cR019cR020cR021cR022cR023"),
   (0x132CB, "cR024cR025cR026cR027cR028cR029cS001cS002cS002AcS003cS004cS005cS006cS006AcS007"),
   (0x132DA, "cS008cS009cS010cS011cS012cS013cS014cS014AcS014BcS015cS016cS017cS017AcS018cS019"),
   (0x132E9, "cS020cS021cS022cS023cS024cS025cS026cS026AcS026BcS027cS028cS029cS030cS031cS032"),
   (0x132F8, "cS033cS034cS035cS035AcS036cS037cS038cS039cS040cS041cS042cS043cS044cS045cS046"),
   (0x13307, "cT001cT002cT003cT003AcT004cT005cT006cT007cT007AcT008cT008AcT009cT009AcT010"),
   (0x13315, "cT011cT011AcT012cT013cT014cT015cT016cT016AcT017cT018cT019cT020cT021cT022cT023"),
   (0x13324, "cT024cT025cT026cT027cT028cT029cT030cT031cT032cT032AcT033cT033AcT034cT035cT036"),
   (0x13333, "cU001cU002cU003cU004cU005cU006cU006AcU006BcU007cU008cU009cU010cU011cU012cU013"),
   (0x13342, "cU014cU015cU016cU017cU018cU019cU020cU021cU022cU023cU023AcU024cU025cU026cU027"),
   (0x13351, "cU028cU029cU029AcU030cU031cU032cU032AcU033cU034cU035cU036cU037cU038cU039cU040"),
   (0x13360, "cU041cU042cV001cV001AcV001BcV001CcV001DcV001EcV001FcV001GcV001HcV001IcV002"),
   (0x1336D, "cV002AcV003cV004cV005cV006cV007cV007AcV007BcV008cV009cV010cV011cV011AcV011B"),
   (0x1337B, "cV011CcV012cV012AcV012BcV013cV014cV015cV016cV017cV018cV019cV020cV020AcV020B"),
   (0x13389, "cV020CcV020DcV020EcV020FcV020GcV020HcV020IcV020JcV020KcV020LcV021cV022cV023"),
   (0x13396, "cV023AcV024cV025cV026cV027cV028cV028AcV029cV029AcV030cV030AcV031cV031AcV032"),
   (0x133A4, "cV033cV033AcV034cV035cV036cV037cV037AcV038cV039cV040cV040AcW001cW002cW003"),
   (0x133B2, "cW003AcW004cW005cW006cW007cW008cW009cW009AcW010cW010AcW011cW012cW013cW014"),
   (0x133C0, "cW014AcW015cW016cW017cW017AcW018cW018AcW019cW020cW021cW022cW023cW024cW024A"),
   (0x133CE, "cW025cX001cX002cX003cX004cX004AcX004BcX005cX006cX006AcX007cX008cX008AcY001"),
   (0x133DC, "cY001AcY002cY003cY004cY005cY006cY007cY008cZ001cZ002cZ002AcZ002BcZ002CcZ002D"),
   (0x133EA, "cZ003cZ003AcZ003BcZ004cZ004AcZ005cZ005AcZ006cZ007cZ008cZ009cZ010cZ011cZ012"),
   (0x133F8, "cZ013cZ014cZ015cZ015AcZ015BcZ015CcZ015DcZ015EcZ015FcZ015GcZ015HcZ015IcZ016"),
   (0x13405, "cZ016AcZ016BcZ016CcZ016DcZ016EcZ016FcZ016GcZ016HcAA001cAA002cAA003cAA004cAA005"),
   (0x13412, "cAA006cAA007cAA007AcAA007BcAA008cAA009cAA010cAA011cAA012cAA013cAA014cAA015"),
   (0x1341E, "cAA016cAA017cAA018cAA019cAA020cAA021cAA022cAA023cAA024cAA025cAA026cAA027cAA028"),
   (0x1342B, "cAA029cAA030cAA031cAA032"),
   (0x13430, "cVERTICAL JOINERcHORIZONTAL JOINERcINSERT AT TOP STARTeBOTTOM STARTeTOP END"),
   (0x13435, "eBOTTOM ENDcOVERLAY MIDDLEcBEGIN SEGMENTcEND SEGMENT"),
   (0x14400, "aANATOLIAN HIEROGLYPH A001cA002cA003cA004cA005cA006cA007cA008cA009cA010cA010A"),
   (0x1440B, "cA011cA012cA013cA014cA015cA016cA017cA018cA019cA020cA021cA022cA023cA024cA025"),
   (0x1441A, "cA026cA026AcA027cA028cA029cA030cA031cA032cA033cA034cA035cA036cA037cA038cA039"),
   (0x14429, "cA039AcA040cA041cA041AcA042cA043cA044cA045cA045AcA046cA046AcA046BcA047cA048"),
   (0x14437, "cA049cA050cA051cA052cA053cA054cA055cA056cA057cA058cA059cA060cA061cA062cA063"),
   (0x14446, "cA064cA065cA066cA066AcA066BcA066CcA067cA068cA069cA070cA071cA072cA073cA074cA075"),
   (0x14455, "cA076cA077cA078cA079cA080cA081cA082cA083cA084cA085cA086cA087cA088cA089cA090"),
   (0x14464, "cA091cA092cA093cA094cA095cA096cA097cA097AcA098cA098AcA099cA100cA100AcA101"),
   (0x14472, "cA101AcA102cA102AcA103cA104cA104AcA104BcA104CcA105cA105AcA105BcA106cA107cA107A"),
   (0x14480, "cA107BcA107CcA108cA109cA110cA110AcA110BcA111cA112cA113cA114cA115cA115AcA116"),
   (0x1448E, "cA117cA118cA119cA120cA121cA122cA123cA124cA125cA125AcA126cA127cA128cA129cA130"),
   (0x1449D, "cA131cA132cA133cA134cA135cA135AcA136cA137cA138cA139cA140cA141cA142cA143cA144"),
   (0x144AC, "cA145cA146cA147cA148cA149cA150cA151cA152cA153cA154cA155cA156cA157cA158cA159"),
   (0x144BB, "cA160cA161cA162cA163cA164cA165cA166cA167cA168cA169cA170cA171cA172cA173cA174"),
   (0x144CA, "cA175cA176cA177cA178cA179cA180cA181cA182cA183cA184cA185cA186cA187cA188cA189"),
   (0x144D9, "cA190cA191cA192cA193cA194cA195cA196cA197cA198cA199cA200cA201cA202cA202AcA202B"),
   (0x144E8, "cA203cA204cA205cA206cA207cA207AcA208cA209cA209AcA210cA211cA212cA213cA214cA215"),
   (0x144F7, "cA215AcA216cA216AcA217cA218cA219cA220cA221cA222cA223cA224cA225cA226cA227cA227A"),
   (0x14506, "cA228cA229cA230cA231cA232cA233cA234cA235cA236cA237cA238cA239cA240cA241cA242"),
   (0x14515, "cA243cA244cA245cA246cA247cA248cA249cA250cA251cA252cA253cA254cA255cA256cA257"),
   (0x14524, "cA258cA259cA260cA261cA262cA263cA264cA265cA266cA267cA267AcA268cA269cA270cA271"),
   (0x14533, "cA272cA273cA274cA275cA276cA277cA278cA279cA280cA281cA282cA283cA284cA285cA286"),
   (0x14542, "cA287cA288cA289cA289AcA290cA291cA292cA293cA294cA294AcA295cA296cA297cA298cA299"),
   (0x14551, "cA299AcA300cA301cA302cA303cA304cA305cA306cA307cA308cA309cA309AcA310cA311cA312"),
   (0x14560, "cA313cA314cA315cA316cA317cA318cA319cA320cA321cA322cA323cA324cA325cA326cA327"),
   (0x1456F, "cA328cA329cA329AcA330cA331cA332AcA332BcA332CcA333cA334cA335cA336cA336AcA336B"),
   (0x1457D, "cA336CcA337cA338cA339cA340cA341cA342cA343cA344cA345cA346cA347cA348cA349cA350"),
   (0x1458C, "cA351cA352cA353cA354cA355cA356cA357cA358cA359cA359AcA360cA361cA362cA363cA364"),
   (0x1459B, "cA364AcA365cA366cA367cA368cA368AcA369cA370cA371cA371AcA372cA373cA374cA375cA376"),
   (0x145AA, "cA377cA378cA379cA380cA381cA381AcA382cA383 RA OR RIcA383AcA384cA385cA386cA386A"),
   (0x145B7, "cA387cA388cA389cA390cA391cA392cA393 EIGHTcA394cA395cA396cA397cA398cA399cA400"),
   (0x145C5, "cA401cA402cA403cA404cA405cA406cA407cA408cA409cA410 BEGIN LOGOGRAM MARK"),
   (0x145CF, "cA410A END LOGOGRAM MARKcA411cA412cA413cA414cA415cA416cA417cA418cA419cA420"),
   (0x145DA, "cA421cA422cA423cA424cA425cA426cA427cA428cA429cA430cA431cA432cA433cA434cA435"),
   (0x145E9, "cA436cA437cA438cA439cA440cA441cA442cA443cA444cA445cA446cA447cA448cA449cA450"),
   (0x145F8, "cA450AcA451cA452cA453cA454cA455cA456cA457cA457AcA458cA459cA460cA461cA462cA463"),
   (0x14607, "cA464cA465cA466cA467cA468cA469cA470cA471cA472cA473cA474cA475cA476cA477cA478"),
   (0x14616, "cA479cA480cA481cA482cA483cA484cA485cA486cA487cA488cA489cA490cA491cA492cA493"),
   (0x14625, "cA494cA495cA496cA497cA501cA502cA503cA504cA505cA506cA507cA508cA509cA510cA511"),
   (0x14634, "cA512cA513cA514cA515cA516cA517cA518cA519cA520cA521cA522cA523cA524cA525cA526"),
   (0x14643, "cA527cA528cA529cA530"),
   (0x16800, "aBAMUM LETTER PHASE-A NGKUE MFONeGBIEE FONePON MFON PIPAEMGBIEEgPIPAEMBA"),
   (0x16804, "eNAA MFONeSHUENSHUETeTITA MFONeNZA MFONeSHINDA PA NJIePON PA NJI PIPAEMGBIEE"),
   (0x1680A, "hPIPAEMBAeMAEMBGBIEEeTU MAEMBAeNGANGUeMAEMVEUXeMANSUAEeMVEUAENGAMeSEUNYAM"),
   (0x16812, "eNTOQPENeKEUKEUTNDAeNKINDIeSUUeNGKUENZEUMeLAPAQeLET KUTeNTAP MFAAeMAEKEUP"),
   (0x1681B, "ePASHAEeGHEUAERAEePAMSHAEeMON NGGEUAETeNZUN MEUTeU YUQ NAEeGHEUAEGHEUAE"),
   (0x16822, "eNTAP NTAAeSISAeMGBASAeMEUNJOMNDEUQeMOOMPUQeKAFAePA LEERAEWAeNDA LEERAEWAePET"),
   (0x1682B, "eMAEMKPENeNIKAePUPeTUAEPeLUAEPeSONJAMeTEUTEUWENeMAENYIeKETeNDAANGGEUAETeKUOQ"),
   (0x16836, "eMOOMEUTeSHUMeLOMMAEeFIRIeROMeKPOQeSOQeMAP PIEETeSHIRAEeNTAPeSHOQ NSHUT YUM"),
   (0x16841, "eNYIT MONGKEUAEQePAARAEeNKAARAEeUNKNOWNeNGGENeMAESIeNJAMeMBANYIeNYETeTEUAEN"),
   (0x1684B, "eSOTePAAMeNSHIEEeMAEMeNYIeKAQeNSHAeVEEeLUeNENeNAQeMBAQdB NSHUETeTU MAEMGBIEE"),
   (0x16859, "eSIEEeSET TUeLOM NTEUMeMBA MAELEEeKIEEMeYEURAEeMBAARAEeKAMePEESHI"),
   (0x16862, "eYAFU LEERAEWAeLAM NSHUT NYAMeNTIEE SHEUOQeNDU NJAAeGHEUGHEUAEMePITeTU NSIEE"),
   (0x16869, "eSHET NJAQeSHEUAEQTUeMFON TEUAEQeMBIT MBAAKETeNYI NTEUMeKEUPUQeGHEUGHEN"),
   (0x16870, "eKEUYEUXeLAANAEePARUMeVEUMeNGKINDI MVOPeNGGEU MBUeWUAETeSAKEUAEeTAAMeMEUQ"),
   (0x1687A, "eNGGUOQeNGGUOQ LARGEeMFIYAQeSUEeMBEURIeMONTIEENeNYAEMAEePUNGAAMeMEUT NGGEET"),
   (0x16883, "eFEUXeMBUOQeFEEeKEUAEMeMA NJEUAENAfNJUQAeLETeNGGAAMeNSENeMAeKIQeNGOM"),
   (0x1688F, "dC NGKUE MAEMBAeNZAeYUMeWANGKUOQeNGGENeNDEUAEREEeNGKAQeGHARAEeMBEEKEETeGBAYI"),
   (0x16899, "eNYIR MKPARAQ MEUNeNTU MBITeMBEUMePIRIEENeNDOMBUeMBAA CABBAGE-TREEeKEUSHEUAEP"),
   (0x168A0, "eGHAPeKEUKAQeYU MUOMAEeNZEUMeMBUEeNSEUAENeMBITeYEUQeKPARAQeKAAeSEUXeNDIDA"),
   (0x168AC, "eTAASHAEeNJUEQeTITA YUEeSUAETeNGGUAEN NYAMeVEUXeNANSANAQeMA KEUAERIeNTAA"),
   (0x168B5, "eNGGUONeLAPeMBIRIEENeMGBASAQeNTEUNGBAeTEUTEUXeNGGUMeFUEeNDEUTeNSAeNSHAQeBUNG"),
   (0x168C1, "eVEUAEPENeMBERAEeRUeNJAEMeLAMeTITUAEPeNSUOT NGOMeNJEEEEeKETeNGGUeMAESIeMBUAEM"),
   (0x168CD, "eLUeKUTeNJAMeNGOMeWUPeNGGUEETeNSOMeNTENeKUOP NKAARAEeNSUNeNDAMeMA NSIEEeYAA"),
   (0x168DA, "eNDAPeSHUEQeSETFONeMBIeMAEMBAeMBANYIeKEUSEUXeMBEUXeKEUMeMBAA PICKETeYUWOQ"),
   (0x168E5, "eNJEUXeMIEEeMUAEeSHIQeKEN LAWfFATIGUEeNGAQeNAQeLIQePINePENeTETdD MBUOeWAPeNJI"),
   (0x168F4, "eMFONeNJIEEeLIEEeNJEUTeNSHEEeNGGAAMAEeNYAMeWUAENeNGKUNeSHEEeNGKAPeKEUAETMEUN"),
   (0x16900, "eTEUTeSHEUAEeNJAPeSUEeKETeYAEMMAEeKUOMeSAPeMFEUTeNDEUXeMALEERIeMEUTeSEUAEQeYEN"),
   (0x1690E, "eNJEUAEMeKEUOT MBUAEeNGKEURIeTUeGHAAeNGKYEEeFEUFEUAETeNDEEeMGBOFUMeLEUAEPeNDON"),
   (0x16919, "eMONIeMGBEUNePUUTeMGBIEEeMFOeLUMeNSIEEPeMBAAeKWAETeNYETeTEUAENeSOTeYUWOQeKEUM"),
   (0x16927, "eRAEMeTEEEEeNGKEUAEQeMFEUAEeNSIEETeKEUPePIPePEUTAEeNYUEeLETeNGGAAMeMFIEE"),
   (0x16933, "eNGGWAENeYUOMePAPeYUOPeNDAMeNTEUMeSUAEeKUNeNGGEUXeNGKIEEeTUOTeMEUNeKUQeNSUM"),
   (0x16941, "eTEUNeMAENJETeNGGAPeLEUMeNGGUOMeNSHUTeNJUEQeGHEUAEeKUeREN OLDeTAEeTOQeNYIeRII"),
   (0x1694F, "eLEEEEeMEEEEeMeSUUeMUeSHIIeSHEUXeKYEEeNUeSHUeNTEEePEEeNIeSHOQePUQeMVOPeLOQ"),
   (0x16960, "eREN MUCHeTIeNTUUeMBAA SEVENeSAQeFAAdE NDAPeTOONeMBEUMeLAPeVOMeLOONePAAeSOM"),
   (0x1696E, "eRAQeNSHUOPeNDUNePUAEeTAMeNGKAeKPEUXeWUOeSEEeNGGEUAETePAAMeTOOeKUOPeLOMeNSHIEE"),
   (0x1697D, "eNGOPeMAEMeNGKEUXeNGOQeNSHUEeRIMGBAeNJEUXePEEMeSAAeNGGURAEeMGBAeGHEUXeNGKEUAEM"),
   (0x1698A, "eNJAEMLIeMAPeLOOTeNGGEEEEeNDIQeTAEN NTEUMeSETePUMeNDAA SOFTNESS"),
   (0x16993, "eNGGUAESHAE NYAMeYIEEeGHEUNeTUAEeYEUAEePOeTUMAEeKEUAEeSUAENeTEUAEQeVEUAEeWEUX"),
   (0x1699F, "eLAAMePUeTAAQeGHAAMAEeNGEUREUTeSHEUAEQeMGBENeMBEEeNZAQeNKOMeGBETeTUMeKUETeYAP"),
   (0x169AD, "eNYI CLEAVEReYITeMFEUQeNDIAQePIEEQeYUEQeLEUAEMeFUEeGBEUXeNGKUPeKETeMAEeNGKAAMI"),
   (0x169BA, "eGHETeFAeNTUMePEUTeYEUMeNGGEUAEeNYI BETWEENeNZUQePOONeMIEEeFUETeNAEeMUAE"),
   (0x169C7, "eGHEUAEeFU IeMVIePUAQeNGKUMeKUTePIETeNTAPeYEUAETeNGGUPePA PEOPLEeFU CALLeFOM"),
   (0x169D4, "eNJEEeAeTOQeOeIeLAQePA PLURALeTAAeTAQeNDAA MY HOUSEeSHIQeYEUXeNGUAEeYUAEN"),
   (0x169E2, "eYOQ SWIMMINGfCOVEReYUQeYUNeKEUXePEUXeNJEE EPOCHePUEeWUEeFEEeVEEeLUeMIeREUX"),
   (0x169F0, "eRAEeNGUAETeNGAeSHOeSHOQeFU REMEDYeNAePIeLOQeKOeMENeMAeMAQeTEUeKIeMONeTENeFAQ"),
   (0x16A02, "eGHOMdF KAeUeKUeEEeREEeTAEeNYIeLAeRIIeRIEEeMEEEEeTAAeNDAAeNJAEMeMeSUUeSHIIeSI"),
   (0x16A15, "eSEUXeKYEEeKETeNUAEeNUeNJUAEeYOQeSHUeYAeNSHAePEUXeNTEEeWUEePEEeRUeNIeREUXeKEN"),
   (0x16A27, "eNGKWAENeNGGAeSHOePUAEeFOMeWAeLIeLOQeKOeMBENeRENeMAeMOeMBAAeTETeKPAeSAMBAeVUEQ"),
   (0x16A40, "aMRO LETTER TAcNGIcYOcMIMcBAcDAcAcPHIcKHAIcHAOcDAIcCHUcKEAAEcOLcMAEMcNINcPAcOO"),
   (0x16A52, "cOcROcSHIcTHEAcEAcWAcEcKOcLANcLAcHAIcRIcTEK"),
   (0x16A60, "bDIGIT ZEROcONEcTWOcTHREEcFOURcFIVEcSIXcSEVENcEIGHTcNINE"),
   (0x16A6E, "bDANDAbDOUBLE DANDAaTANGSA LETTER OZcOCcOQcOXcAZcACcAQcAXcVZcVCcVQcVXcEZcECcEQ"),
   (0x16A7F, "cEXcIZcICcIQcIXcUZcUCcUQcUXcAWZcAWCcAWQcAWXcUIZcUICcUIQcUIXcFINAL NGcLONG UEX"),
   (0x16A92, "cSHORT UEZdAWXcUECcUEZcUEQcUEXcUIUZcUIUCcUIUQcUIUXcMZcMCcMQcMXcKAcKHAcGAcNGA"),
   (0x16AA4, "cSAcYAcWAcPAcNYAcPHAcBAcMAcNAcHAcLAcHTAcTAcDAcRAcNHAcSHAcCAcTSAcGHAcHTTAcTHA"),
   (0x16ABA, "cXAcFAcDHAcCHAcZA"),
   (0x16AC0, "bDIGIT ZEROcONEcTWOcTHREEcFOURcFIVEcSIXcSEVENcEIGHTcNINE"),
   (0x16AD0, "aBASSA VAH LETTER ENNIdKAdSEdFAdMBEdYIEdGAHdDHIIdKPAHdJOdHWAHdWAdZOdGBUdDOdCE"),
   (0x16AE0, "dUWUdTOdBAdVUdYEINdPAdWADDAdAdOdOOdUdEEdEdI"),
   (0x16AF0, "cCOMBINING HIGH TONEdLOW TONEdMID TONEdLOW-MID TONEdHIGH-LOW TONEcFULL STOP"),
   (0x16B00, "aPAHAWH HMONG VOWEL KEEBdKEEVdKIBdKIVdKAUBdKAUVdKUBdKUVdKEBdKEVdKAIBdKAIVdKOOB"),
   (0x16B0D, "dKOOVdKAWBdKAWVdKUABdKUAVdKOBdKOVdKIABdKIAVdKABdKAVdKWBdKWVdKAABdKAAV"),
   (0x16B1C, "cCONSONANT VAUdNTSAUdLAUdHAUdNLAUdRAUdNKAUdQHAUdYAUdHLAUdMAUdCHAUdNCHAUdHNAU"),
   (0x16B2A, "dPLHAUdNTHAUdNAUdAUdXAUdCAUcMARK CIM TUBeSOeKESeKHAVeSUAMeHOMeTAUM"),
   (0x16B37, "cSIGN VOS THOMeTSHAB CEEBdCIM CHEEMdVOS THIABeFEEMdXYEEM NTXIVeRHOeTOVeFAIB"),
   (0x16B40, "dVOS SEEVdMEEJ SUABdVOS NRUAdIB YAMdXAUSdCIM TSOV ROG"),
   (0x16B50, "cDIGIT ZEROdONEdTWOdTHREEdFOURdFIVEdSIXdSEVENdEIGHTdNINE"),
   (0x16B5B, "cNUMBER TENSdHUNDREDSdTEN THOUSANDSdMILLIONSdHUNDRED MILLIONSdTEN BILLIONS"),
   (0x16B61, "dTRILLIONS"),
   (0x16B63, "cSIGN VOS LUBdXYOOdHLIdTHIRD-STAGE HLIdZWJ THAJdHNUBdNQIGdXIABdNTUJdAV"),
   (0x16B6D, "dTXHEEJ CEEVdMEEJ TSEEBdTAUdLOSdMUSdCIM HAIS LUS NTOG NTOGeCUAM TSHOOJeTXWV"),
   (0x16B75, "eTXWV CHWVePUB DAWBeNRES TOS"),
   (0x16B7D, "cCLAN SIGN TSHEEJeYEEGeLISeLAUJeXYOOJeKOOeHAWJeMUASeTHOJeTSABePHABeKHABeHAM"),
   (0x16B8A, "eVAJeFAJeYAJeTSWBeKWMeVWJ"),
   (0x16E40, "aMEDEFAIDRIN CAPITAL LETTER MdSdVdWdATIUdZdKPdPdTdGdFdIdKdAdJdEdBdCdUdYUdLdQ"),
   (0x16E56, "dHPdNYdXdDdOEdNdRdOdAIdYbSMALL LETTER MdSdVdWdATIUdZdKPdPdTdGdFdIdKdAdJdEdBdC"),
   (0x16E72, "dUdYUdLdQdHPdNYdXdDdOEdNdRdOdAIdYbDIGIT ZEROcONEcTWOcTHREEcFOURcFIVEcSIXcSEVEN"),
   (0x16E88, "cEIGHTcNINEbNUMBER TENcELEVENcTWELVEcTHIRTEENcFOURTEENcFIFTEENcSIXTEEN"),
   (0x16E91, "cSEVENTEENcEIGHTEENcNINETEENbDIGIT ONE ALTERNATE FORMcTWO ALTERNATE FORM"),
   (0x16E96, "cTHREE ALTERNATE FORMbCOMMAbFULL STOPbSYMBOL AIVAbEXCLAMATION OH"),
   (0x16F00, "aMIAO LETTER PAcBAcYI PAcPLAcMAcMHAcARCHAIC MAcFAcVAcVFAcTAcDAcYI TTAdTAcTTA"),
   (0x16F0F, "cDDAcNAcNHAcYI NNAcARCHAIC NAcNNAcNNHAcLAcLYAcLHAcLHYAcTLHAcDLHAcTLHYAcDLHYA"),
   (0x16F1E, "cKAcGAcYI KAcQAcQGAcNGAcNGHAcARCHAIC NGAcHAcXAcGHAcGHHAcTSSAcDZZAcNYAcNYHA"),
   (0x16F2E, "cTSHAcDZHAcYI TSHAdDZHAcREFORMED TSHAcSHAcSSAcZHAcZSHAcTSAcDZAcYI TSAcSAcZA"),
   (0x16F3C, "cZSAcZZAcZZSAcARCHAIC ZZAcZZYAcZZSYAcWAcAHcHHAcBRIcSYIcDZYIcTEcTSEcRTE"),
   (0x16F4F, "bSIGN CONSONANT MODIFIER BARbLETTER NASALIZATIONbSIGN ASPIRATION"),
   (0x16F52, "cREFORMED VOICINGdASPIRATIONbVOWEL SIGN AdAAdAHHdANdANGdOdOOdWOdWdEdENdENGdOEY"),
   (0x16F61, "dIdIAdIANdIANGdIOdIEdIIdIUdINGdUdUAdUANdUANGdUUdUEIdUNGdYdYIdAEdAEEdERR"),
   (0x16F76, "dROUNDED ERRdERdROUNDED ERdAIdEIdAUdOUdNdNGdUOGdYUIdOGdOERdVWdIGdEAdIONGdUI"),
   (0x16F8F, "bTONE RIGHTcTOP RIGHTcABOVEcBELOWbLETTER TONE-2d3d4d5d6d7d8cREFORMED TONE-1e2"),
   (0x16F9C, "e4e5e6e8"),
   (0x16FE0, "aTANGUT ITERATION MARKaNUSHU ITERATION MARKaOLD CHINESE HOOK MARK"),
   (0x16FE3, "cITERATION MARKaKHITAN SMALL SCRIPT FILLER"),
   (0x16FF0, "aVIETNAMESE ALTERNATE READING MARK CAeNHAY")]

end RecordAudit.Text.CharacterName

/-!
# Names of compatibility forms

The characters from U+F900 to U+FFFF, most of which stand for other characters. Each line gives the
code point of its first name; the names of the characters after it follow, each behind a small
letter that tells how many words it shares with the name before it.
-/

namespace RecordAudit.Text.CharacterName

def compatibilityForms : List (Nat × String) :=
  [(0xF900, "aCJK COMPATIBILITY IDEOGRAPH-F900dF901dF902dF903dF904dF905dF906dF907dF908dF909"),
   (0xF90A, "dF90AdF90BdF90CdF90DdF90EdF90FdF910dF911dF912dF913dF914dF915dF916dF917dF918"),
   (0xF919, "dF919dF91AdF91BdF91CdF91DdF91EdF91FdF920dF921dF922dF923dF924dF925dF926dF927"),
   (0xF928, "dF928dF929dF92AdF92BdF92CdF92DdF92EdF92FdF930dF931dF932dF933dF934dF935dF936"),
   (0xF937, "dF937dF938dF939dF93AdF93BdF93CdF93DdF93EdF93FdF940dF941dF942dF943dF944dF945"),
   (0xF946, "dF946dF947dF948dF949dF94AdF94BdF94CdF94DdF94EdF94FdF950dF951dF952dF953dF954"),
   (0xF955, "dF955dF956dF957dF958dF959dF95AdF95BdF95CdF95DdF95EdF95FdF960dF961dF962dF963"),
   (0xF964, "dF964dF965dF966dF967dF968dF969dF96AdF96BdF96CdF96DdF96EdF96FdF970dF971dF972"),
   (0xF973, "dF973dF974dF975dF976dF977dF978dF979dF97AdF97BdF97CdF97DdF97EdF97FdF980dF981"),
   (0xF982, "dF982dF983dF984dF985dF986dF987dF988dF989dF98AdF98BdF98CdF98DdF98EdF98FdF990"),
   (0xF991, "dF991dF992dF993dF994dF995dF996dF997dF998dF999dF99AdF99BdF99CdF99DdF99EdF99F"),
   (0xF9A0, "dF9A0dF9A1dF9A2dF9A3dF9A4dF9A5dF9A6dF9A7dF9A8dF9A9dF9AAdF9ABdF9ACdF9ADdF9AE"),
   (0xF9AF, "dF9AFdF9B0dF9B1dF9B2dF9B3dF9B4dF9B5dF9B6dF9B7dF9B8dF9B9dF9BAdF9BBdF9BCdF9BD"),
   (0xF9BE, "dF9BEdF9BFdF9C0dF9C1dF9C2dF9C3dF9C4dF9C5dF9C6dF9C7dF9C8dF9C9dF9CAdF9CBdF9CC"),
   (0xF9CD, "dF9CDdF9CEdF9CFdF9D0dF9D1dF9D2dF9D3dF9D4dF9D5dF9D6dF9D7dF9D8dF9D9dF9DAdF9DB"),
   (0xF9DC, "dF9DCdF9DDdF9DEdF9DFdF9E0dF9E1dF9E2dF9E3dF9E4dF9E5dF9E6dF9E7dF9E8dF9E9dF9EA"),
   (0xF9EB, "dF9EBdF9ECdF9EDdF9EEdF9EFdF9F0dF9F1dF9F2dF9F3dF9F4dF9F5dF9F6dF9F7dF9F8dF9F9"),
   (0xF9FA, "dF9FAdF9FBdF9FCdF9FDdF9FEdF9FFdFA00dFA01dFA02dFA03dFA04dFA05dFA06dFA07dFA08"),
   (0xFA09, "dFA09dFA0AdFA0BdFA0CdFA0DdFA0EdFA0FdFA10dFA11dFA12dFA13dFA14dFA15dFA16dFA17"),
   (0xFA18, "dFA18dFA19dFA1AdFA1BdFA1CdFA1DdFA1EdFA1FdFA20dFA21dFA22dFA23dFA24dFA25dFA26"),
   (0xFA27, "dFA27dFA28dFA29dFA2AdFA2BdFA2CdFA2DdFA2EdFA2FdFA30dFA31dFA32dFA33dFA34dFA35"),
   (0xFA36, "dFA36dFA37dFA38dFA39dFA3AdFA3BdFA3CdFA3DdFA3EdFA3FdFA40dFA41dFA42dFA43dFA44"),
   (0xFA45, "dFA45dFA46dFA47dFA48dFA49dFA4AdFA4BdFA4CdFA4DdFA4EdFA4FdFA50dFA51dFA52dFA53"),
   (0xFA54, "dFA54dFA55dFA56dFA57dFA58dFA59dFA5AdFA5BdFA5CdFA5DdFA5EdFA5FdFA60dFA61dFA62"),
   (0xFA63, "dFA63dFA64dFA65dFA66dFA67dFA68dFA69dFA6AdFA6BdFA6CdFA6D"),
   (0xFA70, "dFA70dFA71dFA72dFA73dFA74dFA75dFA76dFA77dFA78dFA79dFA7AdFA7BdFA7CdFA7DdFA7E"),
   (0xFA7F, "dFA7FdFA80dFA81dFA82dFA83dFA84dFA85dFA86dFA87dFA88dFA89dFA8AdFA8BdFA8CdFA8D"),
   (0xFA8E, "dFA8EdFA8FdFA90dFA91dFA92dFA93dFA94dFA95dFA96dFA97dFA98dFA99dFA9AdFA9BdFA9C"),
   (0xFA9D, "dFA9DdFA9EdFA9FdFAA0dFAA1dFAA2dFAA3dFAA4dFAA5dFAA6dFAA7dFAA8dFAA9dFAAAdFAAB"),
   (0xFAAC, "dFAACdFAADdFAAEdFAAFdFAB0dFAB1dFAB2dFAB3dFAB4dFAB5dFAB6dFAB7dFAB8dFAB9dFABA"),
   (0xFABB, "dFABBdFABCdFABDdFABEdFABFdFAC0dFAC1dFAC2dFAC3dFAC4dFAC5dFAC6dFAC7dFAC8dFAC9"),
   (0xFACA, "dFACAdFACBdFACCdFACDdFACEdFACFdFAD0dFAD1dFAD2dFAD3dFAD4dFAD5dFAD6dFAD7dFAD8"),
   (0xFAD9, "dFAD9"),
   (0xFB00, "aLATIN SMALL LIGATURE FFdFIdFLdFFIdFFLdLONG S TdST"),
   (0xFB13, "aARMENIAN SMALL LIGATURE MEN NOWeECHeINIdVEW NOWdMEN XEH"),
   (0xFB1D, "aHEBREW LETTER YOD WITH HIRIQbPOINT JUDEO-SPANISH VARIKA"),
   (0xFB1F, "bLIGATURE YIDDISH YOD YOD PATAHbLETTER ALTERNATIVE AYINcWIDE ALEFdDALETdHEdKAF"),
   (0xFB25, "dLAMEDdFINAL MEMdRESHdTAVcALTERNATIVE PLUS SIGNcSHIN WITH SHIN DOTeSIN DOT"),
   (0xFB2C, "eDAGESH AND SHIN DOTgSIN DOTcALEF WITH PATAHeQAMATSeMAPIQcBET WITH DAGESH"),
   (0xFB32, "cGIMEL WITH DAGESHcDALET WITH DAGESHcHE WITH MAPIQcVAV WITH DAGESH"),
   (0xFB36, "cZAYIN WITH DAGESH"),
   (0xFB38, "cTET WITH DAGESHcYOD WITH DAGESHcFINAL KAF WITH DAGESHcKAF WITH DAGESH"),
   (0xFB3C, "cLAMED WITH DAGESH"),
   (0xFB3E, "cMEM WITH DAGESH"),
   (0xFB40, "cNUN WITH DAGESHcSAMEKH WITH DAGESH"),
   (0xFB43, "cFINAL PE WITH DAGESHcPE WITH DAGESH"),
   (0xFB46, "cTSADI WITH DAGESHcQOF WITH DAGESHcRESH WITH DAGESHcSHIN WITH DAGESH"),
   (0xFB4A, "cTAV WITH DAGESHcVAV WITH HOLAMcBET WITH RAFEcKAF WITH RAFEcPE WITH RAFE"),
   (0xFB4F, "bLIGATURE ALEF LAMEDaARABIC LETTER ALEF WASLA ISOLATED FORMeFINAL FORM"),
   (0xFB52, "cBEEH ISOLATED FORMdFINAL FORMdINITIAL FORMdMEDIAL FORMcPEH ISOLATED FORM"),
   (0xFB57, "dFINAL FORMdINITIAL FORMdMEDIAL FORMcBEHEH ISOLATED FORMdFINAL FORM"),
   (0xFB5C, "dINITIAL FORMdMEDIAL FORMcTTEHEH ISOLATED FORMdFINAL FORMdINITIAL FORM"),
   (0xFB61, "dMEDIAL FORMcTEHEH ISOLATED FORMdFINAL FORMdINITIAL FORMdMEDIAL FORM"),
   (0xFB66, "cTTEH ISOLATED FORMdFINAL FORMdINITIAL FORMdMEDIAL FORMcVEH ISOLATED FORM"),
   (0xFB6B, "dFINAL FORMdINITIAL FORMdMEDIAL FORMcPEHEH ISOLATED FORMdFINAL FORM"),
   (0xFB70, "dINITIAL FORMdMEDIAL FORMcDYEH ISOLATED FORMdFINAL FORMdINITIAL FORM"),
   (0xFB75, "dMEDIAL FORMcNYEH ISOLATED FORMdFINAL FORMdINITIAL FORMdMEDIAL FORM"),
   (0xFB7A, "cTCHEH ISOLATED FORMdFINAL FORMdINITIAL FORMdMEDIAL FORMcTCHEHEH ISOLATED FORM"),
   (0xFB7F, "dFINAL FORMdINITIAL FORMdMEDIAL FORMcDDAHAL ISOLATED FORMdFINAL FORM"),
   (0xFB84, "cDAHAL ISOLATED FORMdFINAL FORMcDUL ISOLATED FORMdFINAL FORM"),
   (0xFB88, "cDDAL ISOLATED FORMdFINAL FORMcJEH ISOLATED FORMdFINAL FORMcRREH ISOLATED FORM"),
   (0xFB8D, "dFINAL FORMcKEHEH ISOLATED FORMdFINAL FORMdINITIAL FORMdMEDIAL FORM"),
   (0xFB92, "cGAF ISOLATED FORMdFINAL FORMdINITIAL FORMdMEDIAL FORMcGUEH ISOLATED FORM"),
   (0xFB97, "dFINAL FORMdINITIAL FORMdMEDIAL FORMcNGOEH ISOLATED FORMdFINAL FORM"),
   (0xFB9C, "dINITIAL FORMdMEDIAL FORMcNOON GHUNNA ISOLATED FORMeFINAL FORM"),
   (0xFBA0, "cRNOON ISOLATED FORMdFINAL FORMdINITIAL FORMdMEDIAL FORM"),
   (0xFBA4, "cHEH WITH YEH ABOVE ISOLATED FORMgFINAL FORMdGOAL ISOLATED FORMeFINAL FORM"),
   (0xFBA8, "eINITIAL FORMeMEDIAL FORMdDOACHASHMEE ISOLATED FORMeFINAL FORMeINITIAL FORM"),
   (0xFBAD, "eMEDIAL FORMcYEH BARREE ISOLATED FORMeFINAL FORM"),
   (0xFBB0, "eWITH HAMZA ABOVE ISOLATED FORMhFINAL FORMbSYMBOL DOT ABOVEdBELOW"),
   (0xFBB4, "cTWO DOTS ABOVEeBELOWcTHREE DOTS ABOVEeBELOWePOINTING DOWNWARDS ABOVEgBELOW"),
   (0xFBBA, "cFOUR DOTS ABOVEeBELOWcDOUBLE VERTICAL BAR BELOWcTWO DOTS VERTICALLY ABOVE"),
   (0xFBBE, "fBELOWcRINGcSMALL TAH ABOVEeBELOWcWASLA ABOVE"),
   (0xFBD3, "bLETTER NG ISOLATED FORMdFINAL FORMdINITIAL FORMdMEDIAL FORMcU ISOLATED FORM"),
   (0xFBD8, "dFINAL FORMcOE ISOLATED FORMdFINAL FORMcYU ISOLATED FORMdFINAL FORM"),
   (0xFBDD, "cU WITH HAMZA ABOVE ISOLATED FORMcVE ISOLATED FORMdFINAL FORM"),
   (0xFBE0, "cKIRGHIZ OE ISOLATED FORMeFINAL FORMdYU ISOLATED FORMeFINAL FORM"),
   (0xFBE4, "cE ISOLATED FORMdFINAL FORMdINITIAL FORMdMEDIAL FORM"),
   (0xFBE8, "cUIGHUR KAZAKH KIRGHIZ ALEF MAKSURA INITIAL FORMhMEDIAL FORM"),
   (0xFBEA, "bLIGATURE YEH WITH HAMZA ABOVE WITH ALEF ISOLATED FORMiFINAL FORM"),
   (0xFBEC, "hAE ISOLATED FORMiFINAL FORMhWAW ISOLATED FORMiFINAL FORMhU ISOLATED FORM"),
   (0xFBF1, "iFINAL FORMhOE ISOLATED FORMiFINAL FORMhYU ISOLATED FORMiFINAL FORM"),
   (0xFBF6, "hE ISOLATED FORMiFINAL FORMiINITIAL FORM"),
   (0xFBF9, "cUIGHUR KIRGHIZ YEH WITH HAMZA ABOVE WITH ALEF MAKSURA ISOLATED FORM"),
   (0xFBFA, "lFINAL FORMlINITIAL FORMbLETTER FARSI YEH ISOLATED FORMeFINAL FORM"),
   (0xFBFE, "eINITIAL FORMeMEDIAL FORM"),
   (0xFC00, "bLIGATURE YEH WITH HAMZA ABOVE WITH JEEM ISOLATED FORMhHAH ISOLATED FORM"),
   (0xFC02, "hMEEM ISOLATED FORMhALEF MAKSURA ISOLATED FORMhYEH ISOLATED FORM"),
   (0xFC05, "cBEH WITH JEEM ISOLATED FORMeHAH ISOLATED FORMeKHAH ISOLATED FORM"),
   (0xFC08, "eMEEM ISOLATED FORMeALEF MAKSURA ISOLATED FORMeYEH ISOLATED FORM"),
   (0xFC0B, "cTEH WITH JEEM ISOLATED FORMeHAH ISOLATED FORMeKHAH ISOLATED FORM"),
   (0xFC0E, "eMEEM ISOLATED FORMeALEF MAKSURA ISOLATED FORMeYEH ISOLATED FORM"),
   (0xFC11, "cTHEH WITH JEEM ISOLATED FORMeMEEM ISOLATED FORMeALEF MAKSURA ISOLATED FORM"),
   (0xFC14, "eYEH ISOLATED FORMcJEEM WITH HAH ISOLATED FORMeMEEM ISOLATED FORM"),
   (0xFC17, "cHAH WITH JEEM ISOLATED FORMeMEEM ISOLATED FORMcKHAH WITH JEEM ISOLATED FORM"),
   (0xFC1A, "eHAH ISOLATED FORMeMEEM ISOLATED FORMcSEEN WITH JEEM ISOLATED FORM"),
   (0xFC1D, "eHAH ISOLATED FORMeKHAH ISOLATED FORMeMEEM ISOLATED FORM"),
   (0xFC20, "cSAD WITH HAH ISOLATED FORMeMEEM ISOLATED FORMcDAD WITH JEEM ISOLATED FORM"),
   (0xFC23, "eHAH ISOLATED FORMeKHAH ISOLATED FORMeMEEM ISOLATED FORM"),
   (0xFC26, "cTAH WITH HAH ISOLATED FORMeMEEM ISOLATED FORMcZAH WITH MEEM ISOLATED FORM"),
   (0xFC29, "cAIN WITH JEEM ISOLATED FORMeMEEM ISOLATED FORMcGHAIN WITH JEEM ISOLATED FORM"),
   (0xFC2C, "eMEEM ISOLATED FORMcFEH WITH JEEM ISOLATED FORMeHAH ISOLATED FORM"),
   (0xFC2F, "eKHAH ISOLATED FORMeMEEM ISOLATED FORMeALEF MAKSURA ISOLATED FORM"),
   (0xFC32, "eYEH ISOLATED FORMcQAF WITH HAH ISOLATED FORMeMEEM ISOLATED FORM"),
   (0xFC35, "eALEF MAKSURA ISOLATED FORMeYEH ISOLATED FORMcKAF WITH ALEF ISOLATED FORM"),
   (0xFC38, "eJEEM ISOLATED FORMeHAH ISOLATED FORMeKHAH ISOLATED FORMeLAM ISOLATED FORM"),
   (0xFC3C, "eMEEM ISOLATED FORMeALEF MAKSURA ISOLATED FORMeYEH ISOLATED FORM"),
   (0xFC3F, "cLAM WITH JEEM ISOLATED FORMeHAH ISOLATED FORMeKHAH ISOLATED FORM"),
   (0xFC42, "eMEEM ISOLATED FORMeALEF MAKSURA ISOLATED FORMeYEH ISOLATED FORM"),
   (0xFC45, "cMEEM WITH JEEM ISOLATED FORMeHAH ISOLATED FORMeKHAH ISOLATED FORM"),
   (0xFC48, "eMEEM ISOLATED FORMeALEF MAKSURA ISOLATED FORMeYEH ISOLATED FORM"),
   (0xFC4B, "cNOON WITH JEEM ISOLATED FORMeHAH ISOLATED FORMeKHAH ISOLATED FORM"),
   (0xFC4E, "eMEEM ISOLATED FORMeALEF MAKSURA ISOLATED FORMeYEH ISOLATED FORM"),
   (0xFC51, "cHEH WITH JEEM ISOLATED FORMeMEEM ISOLATED FORMeALEF MAKSURA ISOLATED FORM"),
   (0xFC54, "eYEH ISOLATED FORMcYEH WITH JEEM ISOLATED FORMeHAH ISOLATED FORM"),
   (0xFC57, "eKHAH ISOLATED FORMeMEEM ISOLATED FORMeALEF MAKSURA ISOLATED FORM"),
   (0xFC5A, "eYEH ISOLATED FORMcTHAL WITH SUPERSCRIPT ALEF ISOLATED FORM"),
   (0xFC5C, "cREH WITH SUPERSCRIPT ALEF ISOLATED FORM"),
   (0xFC5D, "cALEF MAKSURA WITH SUPERSCRIPT ALEF ISOLATED FORM"),
   (0xFC5E, "cSHADDA WITH DAMMATAN ISOLATED FORMeKASRATAN ISOLATED FORMeFATHA ISOLATED FORM"),
   (0xFC61, "eDAMMA ISOLATED FORMeKASRA ISOLATED FORMeSUPERSCRIPT ALEF ISOLATED FORM"),
   (0xFC64, "cYEH WITH HAMZA ABOVE WITH REH FINAL FORMhZAIN FINAL FORMhMEEM FINAL FORM"),
   (0xFC67, "hNOON FINAL FORMhALEF MAKSURA FINAL FORMhYEH FINAL FORM"),
   (0xFC6A, "cBEH WITH REH FINAL FORMeZAIN FINAL FORMeMEEM FINAL FORMeNOON FINAL FORM"),
   (0xFC6E, "eALEF MAKSURA FINAL FORMeYEH FINAL FORMcTEH WITH REH FINAL FORM"),
   (0xFC71, "eZAIN FINAL FORMeMEEM FINAL FORMeNOON FINAL FORMeALEF MAKSURA FINAL FORM"),
   (0xFC75, "eYEH FINAL FORMcTHEH WITH REH FINAL FORMeZAIN FINAL FORMeMEEM FINAL FORM"),
   (0xFC79, "eNOON FINAL FORMeALEF MAKSURA FINAL FORMeYEH FINAL FORM"),
   (0xFC7C, "cFEH WITH ALEF MAKSURA FINAL FORMeYEH FINAL FORM"),
   (0xFC7E, "cQAF WITH ALEF MAKSURA FINAL FORMeYEH FINAL FORMcKAF WITH ALEF FINAL FORM"),
   (0xFC81, "eLAM FINAL FORMeMEEM FINAL FORMeALEF MAKSURA FINAL FORMeYEH FINAL FORM"),
   (0xFC85, "cLAM WITH MEEM FINAL FORMeALEF MAKSURA FINAL FORMeYEH FINAL FORM"),
   (0xFC88, "cMEEM WITH ALEF FINAL FORMeMEEM FINAL FORMcNOON WITH REH FINAL FORM"),
   (0xFC8B, "eZAIN FINAL FORMeMEEM FINAL FORMeNOON FINAL FORMeALEF MAKSURA FINAL FORM"),
   (0xFC8F, "eYEH FINAL FORMcALEF MAKSURA WITH SUPERSCRIPT ALEF FINAL FORM"),
   (0xFC91, "cYEH WITH REH FINAL FORMeZAIN FINAL FORMeMEEM FINAL FORMeNOON FINAL FORM"),
   (0xFC95, "eALEF MAKSURA FINAL FORMeYEH FINAL FORMeHAMZA ABOVE WITH JEEM INITIAL FORM"),
   (0xFC98, "hHAH INITIAL FORMhKHAH INITIAL FORMhMEEM INITIAL FORMhHEH INITIAL FORM"),
   (0xFC9C, "cBEH WITH JEEM INITIAL FORMeHAH INITIAL FORMeKHAH INITIAL FORM"),
   (0xFC9F, "eMEEM INITIAL FORMeHEH INITIAL FORMcTEH WITH JEEM INITIAL FORM"),
   (0xFCA2, "eHAH INITIAL FORMeKHAH INITIAL FORMeMEEM INITIAL FORMeHEH INITIAL FORM"),
   (0xFCA6, "cTHEH WITH MEEM INITIAL FORMcJEEM WITH HAH INITIAL FORMeMEEM INITIAL FORM"),
   (0xFCA9, "cHAH WITH JEEM INITIAL FORMeMEEM INITIAL FORMcKHAH WITH JEEM INITIAL FORM"),
   (0xFCAC, "eMEEM INITIAL FORMcSEEN WITH JEEM INITIAL FORMeHAH INITIAL FORM"),
   (0xFCAF, "eKHAH INITIAL FORMeMEEM INITIAL FORMcSAD WITH HAH INITIAL FORM"),
   (0xFCB2, "eKHAH INITIAL FORMeMEEM INITIAL FORMcDAD WITH JEEM INITIAL FORM"),
   (0xFCB5, "eHAH INITIAL FORMeKHAH INITIAL FORMeMEEM INITIAL FORM"),
   (0xFCB8, "cTAH WITH HAH INITIAL FORMcZAH WITH MEEM INITIAL FORM"),
   (0xFCBA, "cAIN WITH JEEM INITIAL FORMeMEEM INITIAL FORMcGHAIN WITH JEEM INITIAL FORM"),
   (0xFCBD, "eMEEM INITIAL FORMcFEH WITH JEEM INITIAL FORMeHAH INITIAL FORM"),
   (0xFCC0, "eKHAH INITIAL FORMeMEEM INITIAL FORMcQAF WITH HAH INITIAL FORM"),
   (0xFCC3, "eMEEM INITIAL FORMcKAF WITH JEEM INITIAL FORMeHAH INITIAL FORM"),
   (0xFCC6, "eKHAH INITIAL FORMeLAM INITIAL FORMeMEEM INITIAL FORM"),
   (0xFCC9, "cLAM WITH JEEM INITIAL FORMeHAH INITIAL FORMeKHAH INITIAL FORM"),
   (0xFCCC, "eMEEM INITIAL FORMeHEH INITIAL FORMcMEEM WITH JEEM INITIAL FORM"),
   (0xFCCF, "eHAH INITIAL FORMeKHAH INITIAL FORMeMEEM INITIAL FORM"),
   (0xFCD2, "cNOON WITH JEEM INITIAL FORMeHAH INITIAL FORMeKHAH INITIAL FORM"),
   (0xFCD5, "eMEEM INITIAL FORMeHEH INITIAL FORMcHEH WITH JEEM INITIAL FORM"),
   (0xFCD8, "eMEEM INITIAL FORMeSUPERSCRIPT ALEF INITIAL FORMcYEH WITH JEEM INITIAL FORM"),
   (0xFCDB, "eHAH INITIAL FORMeKHAH INITIAL FORMeMEEM INITIAL FORMeHEH INITIAL FORM"),
   (0xFCDF, "eHAMZA ABOVE WITH MEEM MEDIAL FORMhHEH MEDIAL FORMcBEH WITH MEEM MEDIAL FORM"),
   (0xFCE2, "eHEH MEDIAL FORMcTEH WITH MEEM MEDIAL FORMeHEH MEDIAL FORM"),
   (0xFCE5, "cTHEH WITH MEEM MEDIAL FORMeHEH MEDIAL FORMcSEEN WITH MEEM MEDIAL FORM"),
   (0xFCE8, "eHEH MEDIAL FORMcSHEEN WITH MEEM MEDIAL FORMeHEH MEDIAL FORM"),
   (0xFCEB, "cKAF WITH LAM MEDIAL FORMeMEEM MEDIAL FORMcLAM WITH MEEM MEDIAL FORM"),
   (0xFCEE, "cNOON WITH MEEM MEDIAL FORMeHEH MEDIAL FORMcYEH WITH MEEM MEDIAL FORM"),
   (0xFCF1, "eHEH MEDIAL FORMcSHADDA WITH FATHA MEDIAL FORMeDAMMA MEDIAL FORM"),
   (0xFCF4, "eKASRA MEDIAL FORMcTAH WITH ALEF MAKSURA ISOLATED FORMeYEH ISOLATED FORM"),
   (0xFCF7, "cAIN WITH ALEF MAKSURA ISOLATED FORMeYEH ISOLATED FORM"),
   (0xFCF9, "cGHAIN WITH ALEF MAKSURA ISOLATED FORMeYEH ISOLATED FORM"),
   (0xFCFB, "cSEEN WITH ALEF MAKSURA ISOLATED FORMeYEH ISOLATED FORM"),
   (0xFCFD, "cSHEEN WITH ALEF MAKSURA ISOLATED FORMeYEH ISOLATED FORM"),
   (0xFCFF, "cHAH WITH ALEF MAKSURA ISOLATED FORMeYEH ISOLATED FORM"),
   (0xFD01, "cJEEM WITH ALEF MAKSURA ISOLATED FORMeYEH ISOLATED FORM"),
   (0xFD03, "cKHAH WITH ALEF MAKSURA ISOLATED FORMeYEH ISOLATED FORM"),
   (0xFD05, "cSAD WITH ALEF MAKSURA ISOLATED FORMeYEH ISOLATED FORM"),
   (0xFD07, "cDAD WITH ALEF MAKSURA ISOLATED FORMeYEH ISOLATED FORM"),
   (0xFD09, "cSHEEN WITH JEEM ISOLATED FORMeHAH ISOLATED FORMeKHAH ISOLATED FORM"),
   (0xFD0C, "eMEEM ISOLATED FORMeREH ISOLATED FORMcSEEN WITH REH ISOLATED FORM"),
   (0xFD0F, "cSAD WITH REH ISOLATED FORMcDAD WITH REH ISOLATED FORM"),
   (0xFD11, "cTAH WITH ALEF MAKSURA FINAL FORMeYEH FINAL FORM"),
   (0xFD13, "cAIN WITH ALEF MAKSURA FINAL FORMeYEH FINAL FORM"),
   (0xFD15, "cGHAIN WITH ALEF MAKSURA FINAL FORMeYEH FINAL FORM"),
   (0xFD17, "cSEEN WITH ALEF MAKSURA FINAL FORMeYEH FINAL FORM"),
   (0xFD19, "cSHEEN WITH ALEF MAKSURA FINAL FORMeYEH FINAL FORM"),
   (0xFD1B, "cHAH WITH ALEF MAKSURA FINAL FORMeYEH FINAL FORM"),
   (0xFD1D, "cJEEM WITH ALEF MAKSURA FINAL FORMeYEH FINAL FORM"),
   (0xFD1F, "cKHAH WITH ALEF MAKSURA FINAL FORMeYEH FINAL FORM"),
   (0xFD21, "cSAD WITH ALEF MAKSURA FINAL FORMeYEH FINAL FORM"),
   (0xFD23, "cDAD WITH ALEF MAKSURA FINAL FORMeYEH FINAL FORMcSHEEN WITH JEEM FINAL FORM"),
   (0xFD26, "eHAH FINAL FORMeKHAH FINAL FORMeMEEM FINAL FORMeREH FINAL FORM"),
   (0xFD2A, "cSEEN WITH REH FINAL FORMcSAD WITH REH FINAL FORMcDAD WITH REH FINAL FORM"),
   (0xFD2D, "cSHEEN WITH JEEM INITIAL FORMeHAH INITIAL FORMeKHAH INITIAL FORM"),
   (0xFD30, "eMEEM INITIAL FORMcSEEN WITH HEH INITIAL FORMcSHEEN WITH HEH INITIAL FORM"),
   (0xFD33, "cTAH WITH MEEM INITIAL FORMcSEEN WITH JEEM MEDIAL FORMeHAH MEDIAL FORM"),
   (0xFD36, "eKHAH MEDIAL FORMcSHEEN WITH JEEM MEDIAL FORMeHAH MEDIAL FORMeKHAH MEDIAL FORM"),
   (0xFD3A, "cTAH WITH MEEM MEDIAL FORMcZAH WITH MEEM MEDIAL FORM"),
   (0xFD3C, "cALEF WITH FATHATAN FINAL FORMfISOLATED FORMaORNATE LEFT PARENTHESIS"),
   (0xFD3F, "bRIGHT PARENTHESISaARABIC LIGATURE RAHIMAHU ALLAAHcRADI ALLAAHU ANHeANHAA"),
   (0xFD43, "eANHUMeANHUMAAeANHUNNAcSALLALLAAHU ALAYHI WA-AALIHcALAYHI AS-SALAAM"),
   (0xFD48, "cALAYHIM AS-SALAAMcALAYHIMAA AS-SALAAMcALAYHI AS-SALAATU WAS-SALAAM"),
   (0xFD4B, "cQUDDISA SIRRAHcSALLALLAHU ALAYHI WAAALIHEE WA-SALLAMcALAYHAA AS-SALAAM"),
   (0xFD4E, "cTABAARAKA WA-TAAALAAcRAHIMAHUM ALLAAHcTEH WITH JEEM WITH MEEM INITIAL FORM"),
   (0xFD51, "eHAH WITH JEEM FINAL FORMhINITIAL FORMgMEEM INITIAL FORM"),
   (0xFD54, "eKHAH WITH MEEM INITIAL FORMeMEEM WITH JEEM INITIAL FORMgHAH INITIAL FORM"),
   (0xFD57, "gKHAH INITIAL FORMcJEEM WITH MEEM WITH HAH FINAL FORMhINITIAL FORM"),
   (0xFD5A, "cHAH WITH MEEM WITH YEH FINAL FORMgALEF MAKSURA FINAL FORM"),
   (0xFD5C, "cSEEN WITH HAH WITH JEEM INITIAL FORMeJEEM WITH HAH INITIAL FORM"),
   (0xFD5E, "gALEF MAKSURA FINAL FORMeMEEM WITH HAH FINAL FORMhINITIAL FORM"),
   (0xFD61, "gJEEM INITIAL FORMgMEEM FINAL FORMhINITIAL FORM"),
   (0xFD64, "cSAD WITH HAH WITH HAH FINAL FORMhINITIAL FORMeMEEM WITH MEEM FINAL FORM"),
   (0xFD67, "cSHEEN WITH HAH WITH MEEM FINAL FORMhINITIAL FORMeJEEM WITH YEH FINAL FORM"),
   (0xFD6A, "eMEEM WITH KHAH FINAL FORMhINITIAL FORMgMEEM FINAL FORMhINITIAL FORM"),
   (0xFD6E, "cDAD WITH HAH WITH ALEF MAKSURA FINAL FORMeKHAH WITH MEEM FINAL FORM"),
   (0xFD70, "hINITIAL FORMcTAH WITH MEEM WITH HAH FINAL FORMhINITIAL FORMgMEEM INITIAL FORM"),
   (0xFD74, "gYEH FINAL FORMcAIN WITH JEEM WITH MEEM FINAL FORMeMEEM WITH MEEM FINAL FORM"),
   (0xFD77, "hINITIAL FORMgALEF MAKSURA FINAL FORMcGHAIN WITH MEEM WITH MEEM FINAL FORM"),
   (0xFD7A, "gYEH FINAL FORMgALEF MAKSURA FINAL FORMcFEH WITH KHAH WITH MEEM FINAL FORM"),
   (0xFD7D, "hINITIAL FORMcQAF WITH MEEM WITH HAH FINAL FORMgMEEM FINAL FORM"),
   (0xFD80, "cLAM WITH HAH WITH MEEM FINAL FORMgYEH FINAL FORMgALEF MAKSURA FINAL FORM"),
   (0xFD83, "eJEEM WITH JEEM INITIAL FORMhFINAL FORMeKHAH WITH MEEM FINAL FORMhINITIAL FORM"),
   (0xFD87, "eMEEM WITH HAH FINAL FORMhINITIAL FORMcMEEM WITH HAH WITH JEEM INITIAL FORM"),
   (0xFD8A, "gMEEM INITIAL FORMgYEH FINAL FORMeJEEM WITH HAH INITIAL FORMgMEEM INITIAL FORM"),
   (0xFD8E, "eKHAH WITH JEEM INITIAL FORMgMEEM INITIAL FORM"),
   (0xFD92, "eJEEM WITH KHAH INITIAL FORMcHEH WITH MEEM WITH JEEM INITIAL FORM"),
   (0xFD94, "gMEEM INITIAL FORMcNOON WITH HAH WITH MEEM INITIAL FORM"),
   (0xFD96, "gALEF MAKSURA FINAL FORMeJEEM WITH MEEM FINAL FORMhINITIAL FORM"),
   (0xFD99, "gALEF MAKSURA FINAL FORMeMEEM WITH YEH FINAL FORMgALEF MAKSURA FINAL FORM"),
   (0xFD9C, "cYEH WITH MEEM WITH MEEM FINAL FORMhINITIAL FORM"),
   (0xFD9E, "cBEH WITH KHAH WITH YEH FINAL FORMcTEH WITH JEEM WITH YEH FINAL FORM"),
   (0xFDA0, "gALEF MAKSURA FINAL FORMeKHAH WITH YEH FINAL FORMgALEF MAKSURA FINAL FORM"),
   (0xFDA3, "eMEEM WITH YEH FINAL FORMgALEF MAKSURA FINAL FORM"),
   (0xFDA5, "cJEEM WITH MEEM WITH YEH FINAL FORMeHAH WITH ALEF MAKSURA FINAL FORM"),
   (0xFDA7, "eMEEM WITH ALEF MAKSURA FINAL FORMcSEEN WITH KHAH WITH ALEF MAKSURA FINAL FORM"),
   (0xFDA9, "cSAD WITH HAH WITH YEH FINAL FORMcSHEEN WITH HAH WITH YEH FINAL FORM"),
   (0xFDAB, "cDAD WITH HAH WITH YEH FINAL FORMcLAM WITH JEEM WITH YEH FINAL FORM"),
   (0xFDAD, "eMEEM WITH YEH FINAL FORMcYEH WITH HAH WITH YEH FINAL FORM"),
   (0xFDAF, "eJEEM WITH YEH FINAL FORMeMEEM WITH YEH FINAL FORM"),
   (0xFDB1, "cMEEM WITH MEEM WITH YEH FINAL FORMcQAF WITH MEEM WITH YEH FINAL FORM"),
   (0xFDB3, "cNOON WITH HAH WITH YEH FINAL FORMcQAF WITH MEEM WITH HAH INITIAL FORM"),
   (0xFDB5, "cLAM WITH HAH WITH MEEM INITIAL FORMcAIN WITH MEEM WITH YEH FINAL FORM"),
   (0xFDB7, "cKAF WITH MEEM WITH YEH FINAL FORMcNOON WITH JEEM WITH HAH INITIAL FORM"),
   (0xFDB9, "cMEEM WITH KHAH WITH YEH FINAL FORMcLAM WITH JEEM WITH MEEM INITIAL FORM"),
   (0xFDBB, "cKAF WITH MEEM WITH MEEM FINAL FORMcLAM WITH JEEM WITH MEEM FINAL FORM"),
   (0xFDBD, "cNOON WITH JEEM WITH HAH FINAL FORMcJEEM WITH HAH WITH YEH FINAL FORM"),
   (0xFDBF, "cHAH WITH JEEM WITH YEH FINAL FORMcMEEM WITH JEEM WITH YEH FINAL FORM"),
   (0xFDC1, "cFEH WITH MEEM WITH YEH FINAL FORMcBEH WITH HAH WITH YEH FINAL FORM"),
   (0xFDC3, "cKAF WITH MEEM WITH MEEM INITIAL FORMcAIN WITH JEEM WITH MEEM INITIAL FORM"),
   (0xFDC5, "cSAD WITH MEEM WITH MEEM INITIAL FORMcSEEN WITH KHAH WITH YEH FINAL FORM"),
   (0xFDC7, "cNOON WITH JEEM WITH YEH FINAL FORM"),
   (0xFDCF, "cSALAAMUHU ALAYNAA"),
   (0xFDF0, "cSALLA USED AS KORANIC STOP SIGN ISOLATED FORM"),
   (0xFDF1, "cQALA USED AS KORANIC STOP SIGN ISOLATED FORMcALLAH ISOLATED FORM"),
   (0xFDF3, "cAKBAR ISOLATED FORMcMOHAMMAD ISOLATED FORMcSALAM ISOLATED FORM"),
   (0xFDF6, "cRASOUL ISOLATED FORMcALAYHE ISOLATED FORMcWASALLAM ISOLATED FORM"),
   (0xFDF9, "cSALLA ISOLATED FORMcSALLALLAHOU ALAYHE WASALLAMcJALLAJALALOUHOUaRIAL SIGN"),
   (0xFDFD, "aARABIC LIGATURE BISMILLAH AR-RAHMAN AR-RAHEEMcSUBHAANAHU WA TAAALAA"),
   (0xFDFF, "cAZZA WA JALLaVARIATION SELECTOR-1c2c3c4c5c6c7c8c9c10c11c12c13c14c15c16"),
   (0xFE10, "aPRESENTATION FORM FOR VERTICAL COMMAeIDEOGRAPHIC COMMAfFULL STOPeCOLON"),
   (0xFE14, "eSEMICOLONeEXCLAMATION MARKeQUESTION MARKeLEFT WHITE LENTICULAR BRACKET"),
   (0xFE18, "eRIGHT WHITE LENTICULAR BRAKCETeHORIZONTAL ELLIPSIS"),
   (0xFE20, "aCOMBINING LIGATURE LEFT HALFcRIGHT HALFbDOUBLE TILDE LEFT HALFdRIGHT HALF"),
   (0xFE24, "bMACRON LEFT HALFcRIGHT HALFbCONJOINING MACRONbLIGATURE LEFT HALF BELOW"),
   (0xFE28, "cRIGHT HALF BELOWbTILDE LEFT HALF BELOWcRIGHT HALF BELOW"),
   (0xFE2B, "bMACRON LEFT HALF BELOWcRIGHT HALF BELOWbCONJOINING MACRON BELOW"),
   (0xFE2E, "bCYRILLIC TITLO LEFT HALFdRIGHT HALF"),
   (0xFE30, "aPRESENTATION FORM FOR VERTICAL TWO DOT LEADEReEM DASHeEN DASHeLOW LINE"),
   (0xFE34, "eWAVY LOW LINEeLEFT PARENTHESISeRIGHT PARENTHESISeLEFT CURLY BRACKET"),
   (0xFE38, "eRIGHT CURLY BRACKETeLEFT TORTOISE SHELL BRACKETeRIGHT TORTOISE SHELL BRACKET"),
   (0xFE3B, "eLEFT BLACK LENTICULAR BRACKETeRIGHT BLACK LENTICULAR BRACKET"),
   (0xFE3D, "eLEFT DOUBLE ANGLE BRACKETeRIGHT DOUBLE ANGLE BRACKETeLEFT ANGLE BRACKET"),
   (0xFE40, "eRIGHT ANGLE BRACKETeLEFT CORNER BRACKETeRIGHT CORNER BRACKET"),
   (0xFE43, "eLEFT WHITE CORNER BRACKETeRIGHT WHITE CORNER BRACKETaSESAME DOT"),
   (0xFE46, "aWHITE SESAME DOTaPRESENTATION FORM FOR VERTICAL LEFT SQUARE BRACKET"),
   (0xFE48, "eRIGHT SQUARE BRACKETaDASHED OVERLINEaCENTRELINE OVERLINEaWAVY OVERLINE"),
   (0xFE4C, "aDOUBLE WAVY OVERLINEaDASHED LOW LINEaCENTRELINE LOW LINEaWAVY LOW LINE"),
   (0xFE50, "aSMALL COMMAbIDEOGRAPHIC COMMAbFULL STOP"),
   (0xFE54, "bSEMICOLONbCOLONbQUESTION MARKbEXCLAMATION MARKbEM DASHbLEFT PARENTHESIS"),
   (0xFE5A, "bRIGHT PARENTHESISbLEFT CURLY BRACKETbRIGHT CURLY BRACKET"),
   (0xFE5D, "bLEFT TORTOISE SHELL BRACKETbRIGHT TORTOISE SHELL BRACKETbNUMBER SIGN"),
   (0xFE60, "bAMPERSANDbASTERISKbPLUS SIGNbHYPHEN-MINUSbLESS-THAN SIGNbGREATER-THAN SIGN"),
   (0xFE66, "bEQUALS SIGN"),
   (0xFE68, "bREVERSE SOLIDUSbDOLLAR SIGNbPERCENT SIGNbCOMMERCIAL AT"),
   (0xFE70, "aARABIC FATHATAN ISOLATED FORMbTATWEEL WITH FATHATAN ABOVE"),
   (0xFE72, "bDAMMATAN ISOLATED FORMbTAIL FRAGMENTbKASRATAN ISOLATED FORM"),
   (0xFE76, "bFATHA ISOLATED FORMcMEDIAL FORMbDAMMA ISOLATED FORMcMEDIAL FORM"),
   (0xFE7A, "bKASRA ISOLATED FORMcMEDIAL FORMbSHADDA ISOLATED FORMcMEDIAL FORM"),
   (0xFE7E, "bSUKUN ISOLATED FORMcMEDIAL FORMbLETTER HAMZA ISOLATED FORM"),
   (0xFE81, "cALEF WITH MADDA ABOVE ISOLATED FORMgFINAL FORMeHAMZA ABOVE ISOLATED FORM"),
   (0xFE84, "gFINAL FORMcWAW WITH HAMZA ABOVE ISOLATED FORMgFINAL FORM"),
   (0xFE87, "cALEF WITH HAMZA BELOW ISOLATED FORMgFINAL FORM"),
   (0xFE89, "cYEH WITH HAMZA ABOVE ISOLATED FORMgFINAL FORMgINITIAL FORMgMEDIAL FORM"),
   (0xFE8D, "cALEF ISOLATED FORMdFINAL FORMcBEH ISOLATED FORMdFINAL FORMdINITIAL FORM"),
   (0xFE92, "dMEDIAL FORMcTEH MARBUTA ISOLATED FORMeFINAL FORMdISOLATED FORMdFINAL FORM"),
   (0xFE97, "dINITIAL FORMdMEDIAL FORMcTHEH ISOLATED FORMdFINAL FORMdINITIAL FORM"),
   (0xFE9C, "dMEDIAL FORMcJEEM ISOLATED FORMdFINAL FORMdINITIAL FORMdMEDIAL FORM"),
   (0xFEA1, "cHAH ISOLATED FORMdFINAL FORMdINITIAL FORMdMEDIAL FORMcKHAH ISOLATED FORM"),
   (0xFEA6, "dFINAL FORMdINITIAL FORMdMEDIAL FORMcDAL ISOLATED FORMdFINAL FORM"),
   (0xFEAB, "cTHAL ISOLATED FORMdFINAL FORMcREH ISOLATED FORMdFINAL FORMcZAIN ISOLATED FORM"),
   (0xFEB0, "dFINAL FORMcSEEN ISOLATED FORMdFINAL FORMdINITIAL FORMdMEDIAL FORM"),
   (0xFEB5, "cSHEEN ISOLATED FORMdFINAL FORMdINITIAL FORMdMEDIAL FORMcSAD ISOLATED FORM"),
   (0xFEBA, "dFINAL FORMdINITIAL FORMdMEDIAL FORMcDAD ISOLATED FORMdFINAL FORMdINITIAL FORM"),
   (0xFEC0, "dMEDIAL FORMcTAH ISOLATED FORMdFINAL FORMdINITIAL FORMdMEDIAL FORM"),
   (0xFEC5, "cZAH ISOLATED FORMdFINAL FORMdINITIAL FORMdMEDIAL FORMcAIN ISOLATED FORM"),
   (0xFECA, "dFINAL FORMdINITIAL FORMdMEDIAL FORMcGHAIN ISOLATED FORMdFINAL FORM"),
   (0xFECF, "dINITIAL FORMdMEDIAL FORMcFEH ISOLATED FORMdFINAL FORMdINITIAL FORM"),
   (0xFED4, "dMEDIAL FORMcQAF ISOLATED FORMdFINAL FORMdINITIAL FORMdMEDIAL FORM"),
   (0xFED9, "cKAF ISOLATED FORMdFINAL FORMdINITIAL FORMdMEDIAL FORMcLAM ISOLATED FORM"),
   (0xFEDE, "dFINAL FORMdINITIAL FORMdMEDIAL FORMcMEEM ISOLATED FORMdFINAL FORM"),
   (0xFEE3, "dINITIAL FORMdMEDIAL FORMcNOON ISOLATED FORMdFINAL FORMdINITIAL FORM"),
   (0xFEE8, "dMEDIAL FORMcHEH ISOLATED FORMdFINAL FORMdINITIAL FORMdMEDIAL FORM"),
   (0xFEED, "cWAW ISOLATED FORMdFINAL FORMcALEF MAKSURA ISOLATED FORMeFINAL FORM"),
   (0xFEF1, "cYEH ISOLATED FORMdFINAL FORMdINITIAL FORMdMEDIAL FORM"),
   (0xFEF5, "bLIGATURE LAM WITH ALEF WITH MADDA ABOVE ISOLATED FORMiFINAL FORM"),
   (0xFEF7, "gHAMZA ABOVE ISOLATED FORMiFINAL FORMhBELOW ISOLATED FORMiFINAL FORM"),
   (0xFEFB, "fISOLATED FORMfFINAL FORM"),
   (0xFEFF, "aZERO WIDTH NO-BREAK SPACE"),
   (0xFF01, "aFULLWIDTH EXCLAMATION MARKbQUOTATION MARKbNUMBER SIGNbDOLLAR SIGN"),
   (0xFF05, "bPERCENT SIGNbAMPERSANDbAPOSTROPHEbLEFT PARENTHESISbRIGHT PARENTHESISbASTERISK"),
   (0xFF0B, "bPLUS SIGNbCOMMAbHYPHEN-MINUSbFULL STOPbSOLIDUSbDIGIT ZEROcONEcTWOcTHREEcFOUR"),
   (0xFF15, "cFIVEcSIXcSEVENcEIGHTcNINEbCOLONbSEMICOLONbLESS-THAN SIGNbEQUALS SIGN"),
   (0xFF1E, "bGREATER-THAN SIGNbQUESTION MARKbCOMMERCIAL ATbLATIN CAPITAL LETTER AeBeCeDeE"),
   (0xFF26, "eFeGeHeIeJeKeLeMeNeOePeQeReSeTeUeVeWeXeYeZbLEFT SQUARE BRACKETbREVERSE SOLIDUS"),
   (0xFF3D, "bRIGHT SQUARE BRACKETbCIRCUMFLEX ACCENTbLOW LINEbGRAVE ACCENT"),
   (0xFF41, "bLATIN SMALL LETTER AeBeCeDeEeFeGeHeIeJeKeLeMeNeOePeQeReSeTeUeVeWeXeYeZ"),
   (0xFF5B, "bLEFT CURLY BRACKETbVERTICAL LINEbRIGHT CURLY BRACKETbTILDE"),
   (0xFF5F, "bLEFT WHITE PARENTHESISbRIGHT WHITE PARENTHESIS"),
   (0xFF61, "aHALFWIDTH IDEOGRAPHIC FULL STOPbLEFT CORNER BRACKETbRIGHT CORNER BRACKET"),
   (0xFF64, "bIDEOGRAPHIC COMMAbKATAKANA MIDDLE DOTcLETTER WOdSMALL AeIeUeEeOeYAeYUeYOeTU"),
   (0xFF70, "bKATAKANA-HIRAGANA PROLONGED SOUND MARKbKATAKANA LETTER AdIdUdEdOdKAdKIdKUdKE"),
   (0xFF7A, "dKOdSAdSIdSUdSEdSOdTAdTIdTUdTEdTOdNAdNIdNUdNEdNOdHAdHIdHUdHEdHOdMAdMIdMUdMEdMO"),
   (0xFF94, "dYAdYUdYOdRAdRIdRUdREdROdWAdNcVOICED SOUND MARKcSEMI-VOICED SOUND MARK"),
   (0xFFA0, "bHANGUL FILLERcLETTER KIYEOKdSSANGKIYEOKdKIYEOK-SIOSdNIEUNdNIEUN-CIEUCeHIEUH"),
   (0xFFA7, "dTIKEUTdSSANGTIKEUTdRIEULdRIEUL-KIYEOKeMIEUMePIEUPeSIOSeTHIEUTHePHIEUPHeHIEUH"),
   (0xFFB1, "dMIEUMdPIEUPdSSANGPIEUPdPIEUP-SIOSdSIOSdSSANGSIOSdIEUNGdCIEUCdSSANGCIEUC"),
   (0xFFBA, "dCHIEUCHdKHIEUKHdTHIEUTHdPHIEUPHdHIEUH"),
   (0xFFC2, "dAdAEdYAdYAEdEOdE"),
   (0xFFCA, "dYEOdYEdOdWAdWAEdOE"),
   (0xFFD2, "dYOdUdWEOdWEdWIdYU"),
   (0xFFDA, "dEUdYIdI"),
   (0xFFE0, "aFULLWIDTH CENT SIGNbPOUND SIGNbNOT SIGNbMACRONbBROKEN BARbYEN SIGNbWON SIGN"),
   (0xFFE8, "aHALFWIDTH FORMS LIGHT VERTICALbLEFTWARDS ARROWbUPWARDS ARROWbRIGHTWARDS ARROW"),
   (0xFFEC, "bDOWNWARDS ARROWbBLACK SQUAREbWHITE CIRCLE"),
   (0xFFF9, "aINTERLINEAR ANNOTATION ANCHORcSEPARATORcTERMINATOR"),
   (0xFFFC, "aOBJECT REPLACEMENT CHARACTERaREPLACEMENT CHARACTER")]

end RecordAudit.Text.CharacterName

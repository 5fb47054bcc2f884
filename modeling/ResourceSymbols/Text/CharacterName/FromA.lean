/-!
# Names of characters from A to C

A small letter says how many words a name shares with the one before it, none for the
letter a; the words after the letter follow those.
-/

namespace ResourceSymbols.Text.CharacterName

/-- The names from A to C, in the order of their words. -/
def namesFromA : List String := [
  "aABACUSaAC CURRENTaACCORDIONaACCOUNT OFaACKaACKNOWLEDGEaACTIVATE ARABIC FORM SHAPING",
  "bSYMMETRIC SWAPPINGaACUTE ACCENTbANGLEaADDRESSED TO THE SUBJECTaADHESIVE BANDAGEaADI SHAKTI",
  "aADLAM ALIF LENGTHENERbCAPITAL LETTER ALIFdBAdBHEdCHIdDAALIdDHAdEdFAdGAdGBEdHAdIdJIIMdKAFdKHA",
  "dKPOdLAAMdMIIMdNHAdNUNdNYAdOdPEdQAAFdRAdSHAdSINNYIIYHEdTUdUdVAdWAWdYAdYHEdZAL",
  "bCONSONANT MODIFIERbDIGIT EIGHTcFIVEcFOURcNINEcONEcSEVENcSIXcTHREEcTWOcZERO",
  "bGEMINATE CONSONANT MODIFIERbGEMINATION MARKbHAMZAbINITIAL EXCLAMATION MARKcQUESTION MARK",
  "bNASALIZATION MARKbNUKTAbSMALL LETTER ALIFdBAdBHEdCHIdDAALIdDHAdEdFAdGAdGBEdHAdIdJIIMdKAFdKHA",
  "dKPOdLAAMdMIIMdNHAdNUNdNYAdOdPEdQAAFdRAdSHAdSINNYIIYHEdTUdUdVAdWAWdYAdYHEdZALbVOWEL LENGTHENER",
  "aADMETOSaADMISSION TICKETSaADULTaAEGEAN CHECK MARKbDRY MEASURE FIRST SUBUNIT",
  "bLIQUID MEASURE FIRST SUBUNITbMEASURE SECOND SUBUNITcTHIRD SUBUNITbNUMBER EIGHTdHUNDRED",
  "dTHOUSANDcEIGHTYdTHOUSANDcFIFTYdTHOUSANDcFIVEdHUNDREDdTHOUSANDcFORTYdTHOUSANDcFOURdHUNDRED",
  "dTHOUSANDcNINEdHUNDREDdTHOUSANDcNINETYdTHOUSANDcONEdHUNDREDdTHOUSANDcSEVENdHUNDREDdTHOUSAND",
  "cSEVENTYdTHOUSANDcSIXdHUNDREDdTHOUSANDcSIXTYdTHOUSANDcTENdTHOUSANDcTHIRTYdTHOUSANDcTHREE",
  "dHUNDREDdTHOUSANDcTWENTYdTHOUSANDcTWOdHUNDREDdTHOUSANDbWEIGHT BASE UNITcFIRST SUBUNIT",
  "cFOURTH SUBUNITcSECOND SUBUNITcTHIRD SUBUNITbWORD SEPARATOR DOTdLINEaAERIAL TRAMWAY",
  "aAFGHANI SIGNaAHOM CONSONANT SIGN MEDIAL LAeLIGATING RAeRAbDIGIT EIGHTcFIVEcFOURcNINEcONE",
  "cSEVENcSIXcTHREEcTWOcZERObLETTER AcALTERNATE BAdGAdTAcBAcBHAcCAcCHAcDAcDDAcDDHAcDHAcGAcGHAcHA",
  "cJAcJHAcKAcKHAcLAcLLAcMAcNAcNGAcNNAcNYAcPAcPHAcRAcSAcTAcTHAcTTAcTTHAbNUMBER TENcTWENTY",
  "bSIGN KILLERcRULAIcSECTIONcSMALL SECTIONbSYMBOL VIbVOWEL SIGN AdAAdAIdAMdAWdEdIdIIdOdUdUU",
  "aAIRPLANEbARRIVINGbDEPARTUREaAKTIESELSKABaALARM CLOCKaALCHEMICAL SYMBOL FOR AIRdALEMBICdALKALI",
  "dALKALI-2dALUMdAMALGAMdANTIMONY OREdAQUA REGIAeREGIA-2eVITAEeVITAE-2dAQUAFORTISdARSENICdASHES",
  "dAURIPIGMENTdBATH OF MARYfVAPOURSdBISMUTH OREdBLACK SULFURdBORAXdBORAX-2dBORAX-3dBRICK",
  "dCADUCEUSdCALXdCAPUT MORTUUMdCINNABARdCOPPER ANTIMONIATEeOREdCROCUS OF COPPERfCOPPER-2fIRON",
  "dCRUCIBLEdCRUCIBLE-2dCRUCIBLE-3dCRUCIBLE-4dCRUCIBLE-5dDAY-NIGHTdDISSOLVEdDISSOLVE-2dDISTILL",
  "dEARTHdFIREdGOLDdGUMdHALF DRAMeOUNCEdHORSE DUNGdHOURdIRON OREeORE-2dIRON-COPPER OREdLEAD ORE",
  "dLODESTONEdMARCASITEdMERCURY SUBLIMATEeSUBLIMATE-2eSUBLIMATE-3dMONTHdNIGHTdNITREdOIL",
  "dPHILOSOPHERS SULFURdPOT ASHESdPOWDERdPOWDERED BRICKdPRECIPITATEdPURIFYdPUTREFACTION",
  "dQUICK LIMEdQUINTESSENCEdREALGARdREALGAR-2dREGULUSeOF ANTIMONYfANTIMONY-2fIRONdREGULUS-2",
  "dREGULUS-3dREGULUS-4dRETORTdROCK SALTeSALT-2dSAL-AMMONIACdSALTeOF ANTIMONYfCOPPER ANTIMONIATE",
  "dSCEPTER OF JOVEdSILVERdSOAPdSPIRITdSTARRED TRIDENTdSTRATUM SUPER STRATUMfSTRATUM-2",
  "dSUBLIMATE OF ANTIMONYfCOPPERfSALT OF ANTIMONYhCOPPERdSUBLIMATIONdSULFURdTARTARdTARTAR-2",
  "dTIN OREdTINCTUREdTRIDENTdTUTTYdURINEdVERDIGRISdVINEGAReOF ANTIMONYdVINEGAR-2dVINEGAR-3",
  "dVITRIOLdVITRIOL-2dWATERdWAXaALEF SYMBOLaALEMBICaALERTaALIEN MONSTERaALL AROUND-PROFILE",
  "bEQUAL TOaALMaALMOST EQUAL OR EQUAL TOcTOdWITH CIRCUMFLEX ACCENT",
  "aALTERNATE ONE-WAY LEFT WAY TRAFFICaALTERNATIVE KEY SYMBOLaAMALGAMATION OR COPRODUCTaAMBULANCE",
  "aAMERICAN FOOTBALLaAMPERSANDaAMPHORAaANATOLIAN HIEROGLYPH A001cA002cA003cA004cA005cA006cA007",
  "cA008cA009cA010cA010AcA011cA012cA013cA014cA015cA016cA017cA018cA019cA020cA021cA022cA023cA024",
  "cA025cA026cA026AcA027cA028cA029cA030cA031cA032cA033cA034cA035cA036cA037cA038cA039cA039AcA040",
  "cA041cA041AcA042cA043cA044cA045cA045AcA046cA046AcA046BcA047cA048cA049cA050cA051cA052cA053cA054",
  "cA055cA056cA057cA058cA059cA060cA061cA062cA063cA064cA065cA066cA066AcA066BcA066CcA067cA068cA069",
  "cA070cA071cA072cA073cA074cA075cA076cA077cA078cA079cA080cA081cA082cA083cA084cA085cA086cA087",
  "cA088cA089cA090cA091cA092cA093cA094cA095cA096cA097cA097AcA098cA098AcA099cA100cA100AcA101cA101A",
  "cA102cA102AcA103cA104cA104AcA104BcA104CcA105cA105AcA105BcA106cA107cA107AcA107BcA107CcA108cA109",
  "cA110cA110AcA110BcA111cA112cA113cA114cA115cA115AcA116cA117cA118cA119cA120cA121cA122cA123cA124",
  "cA125cA125AcA126cA127cA128cA129cA130cA131cA132cA133cA134cA135cA135AcA136cA137cA138cA139cA140",
  "cA141cA142cA143cA144cA145cA146cA147cA148cA149cA150cA151cA152cA153cA154cA155cA156cA157cA158",
  "cA159cA160cA161cA162cA163cA164cA165cA166cA167cA168cA169cA170cA171cA172cA173cA174cA175cA176",
  "cA177cA178cA179cA180cA181cA182cA183cA184cA185cA186cA187cA188cA189cA190cA191cA192cA193cA194",
  "cA195cA196cA197cA198cA199cA200cA201cA202cA202AcA202BcA203cA204cA205cA206cA207cA207AcA208cA209",
  "cA209AcA210cA211cA212cA213cA214cA215cA215AcA216cA216AcA217cA218cA219cA220cA221cA222cA223cA224",
  "cA225cA226cA227cA227AcA228cA229cA230cA231cA232cA233cA234cA235cA236cA237cA238cA239cA240cA241",
  "cA242cA243cA244cA245cA246cA247cA248cA249cA250cA251cA252cA253cA254cA255cA256cA257cA258cA259",
  "cA260cA261cA262cA263cA264cA265cA266cA267cA267AcA268cA269cA270cA271cA272cA273cA274cA275cA276",
  "cA277cA278cA279cA280cA281cA282cA283cA284cA285cA286cA287cA288cA289cA289AcA290cA291cA292cA293",
  "cA294cA294AcA295cA296cA297cA298cA299cA299AcA300cA301cA302cA303cA304cA305cA306cA307cA308cA309",
  "cA309AcA310cA311cA312cA313cA314cA315cA316cA317cA318cA319cA320cA321cA322cA323cA324cA325cA326",
  "cA327cA328cA329cA329AcA330cA331cA332AcA332BcA332CcA333cA334cA335cA336cA336AcA336BcA336CcA337",
  "cA338cA339cA340cA341cA342cA343cA344cA345cA346cA347cA348cA349cA350cA351cA352cA353cA354cA355",
  "cA356cA357cA358cA359cA359AcA360cA361cA362cA363cA364cA364AcA365cA366cA367cA368cA368AcA369cA370",
  "cA371cA371AcA372cA373cA374cA375cA376cA377cA378cA379cA380cA381cA381AcA382cA383 RA OR RIcA383A",
  "cA384cA385cA386cA386AcA387cA388cA389cA390cA391cA392cA393 EIGHTcA394cA395cA396cA397cA398cA399",
  "cA400cA401cA402cA403cA404cA405cA406cA407cA408cA409cA410 BEGIN LOGOGRAM MARK",
  "cA410A END LOGOGRAM MARKcA411cA412cA413cA414cA415cA416cA417cA418cA419cA420cA421cA422cA423cA424",
  "cA425cA426cA427cA428cA429cA430cA431cA432cA433cA434cA435cA436cA437cA438cA439cA440cA441cA442",
  "cA443cA444cA445cA446cA447cA448cA449cA450cA450AcA451cA452cA453cA454cA455cA456cA457cA457AcA458",
  "cA459cA460cA461cA462cA463cA464cA465cA466cA467cA468cA469cA470cA471cA472cA473cA474cA475cA476",
  "cA477cA478cA479cA480cA481cA482cA483cA484cA485cA486cA487cA488cA489cA490cA491cA492cA493cA494",
  "cA495cA496cA497cA501cA502cA503cA504cA505cA506cA507cA508cA509cA510cA511cA512cA513cA514cA515",
  "cA516cA517cA518cA519cA520cA521cA522cA523cA524cA525cA526cA527cA528cA529cA530aANATOMICAL HEART",
  "aANCHORaAND WITH DOTaANGER SYMBOLaANGLEbWITH S INSIDEcUNDERBARaANGRY FACEaANGSTROM SIGN",
  "aANGUISHED FACEaANKHaANTaANTENNA WITH BARSaANTICLOCKWISE CLOSED CIRCLE ARROWbCONTOUR INTEGRAL",
  "bDOWNWARDS AND UPWARDS OPEN CIRCLE ARROWSbGAPPED CIRCLE ARROWbINTEGRATIONbOPEN CIRCLE ARROW",
  "bTOP SEMICIRCLE ARROWbTRIANGLE-HEADED BOTTOM U-SHAPED ARROWcLEFT U-SHAPED ARROW",
  "cOPEN CIRCLE ARROWcRIGHT U-SHAPED ARROWcTOP U-SHAPED ARROWaAPCaAPL FUNCTIONAL SYMBOL ALPHA",
  "eUNDERBARdBACKSLASH BARdCIRCLE BACKSLASHeDIAERESISeJOTeSTAReSTILEeUNDERBARdCOMMA BAR",
  "dDEL DIAERESISeSTILEeTILDEdDELTA STILEeUNDERBARdDIAMOND UNDERBARdDOWN CARET TILDEeSHOE STILE",
  "eTACK JOTfUNDERBARdDOWNWARDS VANEdEPSILON UNDERBARdGREATER-THAN DIAERESISdI-BEAMdIOTAeUNDERBAR",
  "dJOT DIAERESISeUNDERBARdLEFT SHOE STILEdLEFTWARDS VANEdOMEGAeUNDERBARdQUADeBACKSLASHeCIRCLE",
  "eCOLONeDELeDELTAeDIAMONDeDIVIDEeDOWN CARETeDOWNWARDS ARROWeEQUALeGREATER-THANeJOT",
  "eLEFTWARDS ARROWeLESS-THANeNOT EQUALeQUESTIONeRIGHTWARDS ARROWeSLASHeUP CARETeUPWARDS ARROW",
  "dQUOTE QUADeUNDERBARdRHOdRIGHTWARDS VANEdSEMICOLON UNDERBARdSLASH BARdSQUISH QUAD",
  "dSTAR DIAERESISdSTILE TILDEdTILDE DIAERESISdUP CARET TILDEeSHOE JOTeTACK DIAERESISfJOTfOVERBAR",
  "dUPWARDS VANEdZILDEaAPOLLONaAPOSTROPHEaAPPLICATION PROGRAM COMMANDaAPPROACHES THE LIMIT",
  "aAPPROXIMATELY BUT NOT ACTUALLY EQUAL TObEQUAL OR EQUAL TOcTOdOR THE IMAGE OFaAQUARIUS",
  "aARABIC BASELINE ROUND DOTbCOMMAbCURLY DAMMAcDAMMATANcFATHAcFATHATANcKASRAcKASRATANbDAMMA",
  "cISOLATED FORMcMEDIAL FORMcWITH DOTbDAMMATANcISOLATED FORMbDATE SEPARATORbDECIMAL SEPARATOR",
  "bDISPUTED END OF AYAHbDOUBLE RIGHT ARROWHEAD ABOVEfWITH DOTbDOUBLED MADDA",
  "bEMPTY CENTRE HIGH STOPdLOW STOPbEND OF AYAHdTEXT MARKbFATHAcISOLATED FORMcMEDIAL FORM",
  "cWITH DOT ABOVEdRINGdTWO DOTSbFATHATANcISOLATED FORMbFIVE POINTED STARbFOOTNOTE MARKER",
  "bFULL STOPbHALF MADDA OVER MADDAbHAMZA ABOVEcBELOWbINVERTED DAMMAbKASRAcISOLATED FORM",
  "cMEDIAL FORMcWITH DOT BELOWbKASRATANcISOLATED FORMbLARGE CIRCLE BELOWcROUND DOT ABOVEeBELOW",
  "eINSIDE CIRCLE BELOWbLEFT ARROWHEAD ABOVEdBELOWbLETTER AEcAFRICAN FEHdNOONdQAF",
  "eWITH THREE DOTS ABOVEcAINdFINAL FORMdINITIAL FORMdISOLATED FORMdMEDIAL FORM",
  "dWITH THREE DOTS ABOVEgBELOWgPOINTING DOWNWARDS ABOVEeTWO DOTS ABOVEgVERTICALLY ABOVEcALEF",
  "dFINAL FORMdISOLATED FORMdMAKSURAeFINAL FORMeISOLATED FORMdWASLAeFINAL FORMeISOLATED FORM",
  "dWITH ATTACHED BOTTOM RIGHT KASRAiAND DOT ABOVEjLEFT RINGfFATHAfKASRAfLEFT HAMZAgROUND DOT",
  "fRIGHT HAMZAgROUND DOTfROUND DOT ABOVEhBELOWfTOP RIGHT FATHAiAND DOT ABOVEjLEFT RINGeDOT ABOVE",
  "eEXTENDED ARABIC-INDIC DIGIT THREE ABOVEhTWO ABOVEeHAMZA ABOVEgFINAL FORMgISOLATED FORMfBELOW",
  "gFINAL FORMgISOLATED FORMeLEFT MIDDLE STROKEeMADDA ABOVEgFINAL FORMgISOLATED FORM",
  "eRIGHT MIDDLE STROKEhAND DOT ABOVEiLEFT RINGeWAVY HAMZA ABOVEgBELOWcBEEHdFINAL FORM",
  "dINITIAL FORMdISOLATED FORMdMEDIAL FORMcBEHdFINAL FORMdINITIAL FORMdISOLATED FORMdMEDIAL FORM",
  "dWITH DOT BELOW AND THREE DOTS ABOVEeHAMZA ABOVEeINVERTED SMALL V BELOWeSMALL MEEM ABOVEfV",
  "gBELOWeTHREE DOTS HORIZONTALLY BELOWgPOINTING UPWARDS BELOWjAND TWO DOTS ABOVE",
  "eTWO DOTS BELOW AND DOT ABOVEcBEHEHdFINAL FORMdINITIAL FORMdISOLATED FORMdMEDIAL FORMcDAD",
  "dFINAL FORMdINITIAL FORMdISOLATED FORMdMEDIAL FORMdWITH DOT BELOWcDAHALdFINAL FORM",
  "dISOLATED FORMcDALdFINAL FORMdISOLATED FORMdWITH DOT BELOWgAND SMALL TAHeFOUR DOTS ABOVE",
  "eINVERTED SMALL V BELOWfVeRINGeTHREE DOTS ABOVE DOWNWARDSgBELOW",
  "eTWO DOTS VERTICALLY BELOW AND SMALL TAHcDDAHALdFINAL FORMdISOLATED FORMcDDALdFINAL FORM",
  "dISOLATED FORMcDOTLESS BEHdFEHdQAFcDULdFINAL FORMdISOLATED FORMcDYEHdFINAL FORMdINITIAL FORM",
  "dISOLATED FORMdMEDIAL FORMcEdFINAL FORMdINITIAL FORMdISOLATED FORMdMEDIAL FORMcFARSI YEH",
  "eFINAL FORMeINITIAL FORMeISOLATED FORMeMEDIAL FORMeWITH EXTENDED ARABIC-INDIC DIGIT FOUR BELOW",
  "iTHREE ABOVEiTWO ABOVEfINVERTED VfTHREE DOTS ABOVEfTWO DOTS ABOVEcFEHdFINAL FORMdINITIAL FORM",
  "dISOLATED FORMdMEDIAL FORMdWITH DOT BELOWgAND THREE DOTS ABOVEfMOVED BELOWeTHREE DOTS BELOW",
  "gPOINTING UPWARDS BELOWeTWO DOTS BELOWcGAFdFINAL FORMdINITIAL FORMdISOLATED FORMdMEDIAL FORM",
  "dWITH INVERTED STROKEeRINGeTHREE DOTS ABOVEeTWO DOTS BELOWcGHAINdFINAL FORMdINITIAL FORM",
  "dISOLATED FORMdMEDIAL FORMdWITH DOT BELOWeTHREE DOTS ABOVEcGRAFcGUEHdFINAL FORMdINITIAL FORM",
  "dISOLATED FORMdMEDIAL FORMcHAHdFINAL FORMdINITIAL FORMdISOLATED FORMdMEDIAL FORM",
  "dWITH EXTENDED ARABIC-INDIC DIGIT FOUR BELOWeHAMZA ABOVEeINVERTED SMALL V BELOW",
  "eSMALL ARABIC LETTER TAH ABOVEiAND TWO DOTSiBELOWeTHREE DOTS ABOVEgPOINTING UPWARDS BELOW",
  "eTWO DOTS ABOVEgVERTICAL ABOVEcHAMZAdISOLATED FORMcHEHdDOACHASHMEEeFINAL FORMeINITIAL FORM",
  "eISOLATED FORMeMEDIAL FORMdFINAL FORMdGOALeFINAL FORMeINITIAL FORMeISOLATED FORMeMEDIAL FORM",
  "eWITH HAMZA ABOVEdINITIAL FORMdISOLATED FORMdMEDIAL FORMdWITH INVERTED VeYEH ABOVEgFINAL FORM",
  "gISOLATED FORMcHIGH HAMZAeALEFeWAWeYEHcJEEMdFINAL FORMdINITIAL FORMdISOLATED FORMdMEDIAL FORM",
  "dWITH THREE DOTS ABOVEgBELOWeTWO DOTS ABOVEcJEHdFINAL FORMdISOLATED FORMcKAFdFINAL FORM",
  "dINITIAL FORMdISOLATED FORMdMEDIAL FORMdWITH DOT ABOVEfBELOWeRINGeTHREE DOTS BELOW",
  "eTWO DOTS ABOVEcKASHMIRI YEHcKEHEHdFINAL FORMdINITIAL FORMdISOLATED FORMdMEDIAL FORM",
  "dWITH DOT ABOVEeSMALL VeTHREE DOTS ABOVEgBELOWgPOINTING UPWARDS BELOWeTWO DOTS ABOVE",
  "gVERTICALLY BELOWcKHAHdFINAL FORMdINITIAL FORMdISOLATED FORMdMEDIAL FORMcKIRGHIZ OEeFINAL FORM",
  "eISOLATED FORMdYUeFINAL FORMeISOLATED FORMcLAMdFINAL FORMdINITIAL FORMdISOLATED FORM",
  "dMEDIAL FORMdWITH BAReDOT ABOVEeDOUBLE BAReSMALL ARABIC LETTER TAH ABOVEfVeTHREE DOTS ABOVE",
  "gBELOWcLOW ALEFcMARKcMEEMdFINAL FORMdINITIAL FORMdISOLATED FORMdMEDIAL FORMdWITH DOT ABOVE",
  "fBELOWeTHREE DOTS ABOVEcNGdFINAL FORMdINITIAL FORMdISOLATED FORMdMEDIAL FORMcNGOEHdFINAL FORM",
  "dINITIAL FORMdISOLATED FORMdMEDIAL FORMcNOONdFINAL FORMdGHUNNAeFINAL FORMeISOLATED FORM",
  "dINITIAL FORMdISOLATED FORMdMEDIAL FORMdWITH DOT BELOWeINVERTED SMALL VeRINGeSMALL TAHfV",
  "eTHREE DOTS ABOVEeTWO DOTS BELOWcNYEHdFINAL FORMdINITIAL FORMdISOLATED FORMdMEDIAL FORMcOE",
  "dFINAL FORMdISOLATED FORMcPEHdFINAL FORMdINITIAL FORMdISOLATED FORMdMEDIAL FORM",
  "dWITH SMALL MEEM ABOVEfVcPEHEHdFINAL FORMdINITIAL FORMdISOLATED FORMdMEDIAL FORMcQAF",
  "dFINAL FORMdINITIAL FORMdISOLATED FORMdMEDIAL FORMdWITH DOT ABOVEfBELOWgAND NO DOTS ABOVE",
  "eTHREE DOTS ABOVEcREHdFINAL FORMdISOLATED FORMdWITH DOT BELOWgAND DOT ABOVEeFOUR DOTS ABOVE",
  "eHAMZA ABOVEeINVERTED VeLOOPeRINGeSMALL ARABIC LETTER TAH AND TWO DOTSfNOON ABOVEfVgBELOW",
  "eSTROKEeTWO DOTS ABOVEgVERTICALLY ABOVEcRNOONdFINAL FORMdINITIAL FORMdISOLATED FORM",
  "dMEDIAL FORMcROHINGYA YEHcRREHdFINAL FORMdISOLATED FORMcSADdFINAL FORMdINITIAL FORM",
  "dISOLATED FORMdMEDIAL FORMdWITH THREE DOTS ABOVEgBELOWeTWO DOTS BELOWcSEENdFINAL FORM",
  "dINITIAL FORMdISOLATED FORMdMEDIAL FORMdWITH DOT BELOW AND DOT ABOVE",
  "eEXTENDED ARABIC-INDIC DIGIT FOUR ABOVEeFOUR DOTS ABOVEeINVERTED V",
  "eSMALL ARABIC LETTER TAH AND TWO DOTSeTHREE DOTS BELOWhAND THREE DOTS ABOVE",
  "eTWO DOTS VERTICALLY ABOVEcSHEENdFINAL FORMdINITIAL FORMdISOLATED FORMdMEDIAL FORM",
  "dWITH DOT BELOWcSTRAIGHT WAWcSUPERSCRIPT ALEFcSWASH KAFcTAHdFINAL FORMdINITIAL FORM",
  "dISOLATED FORMdMEDIAL FORMdWITH DOT BELOWeTHREE DOTS ABOVEgBELOWeTWO DOTS ABOVEcTCHEH",
  "dFINAL FORMdINITIAL FORMdISOLATED FORMdMEDIAL FORMdWITH DOT ABOVEeSMALL VcTCHEHEHdFINAL FORM",
  "dINITIAL FORMdISOLATED FORMdMEDIAL FORMcTEHdFINAL FORMdINITIAL FORMdISOLATED FORMdMARBUTA",
  "eFINAL FORMeGOALeISOLATED FORMdMEDIAL FORMdWITH RINGeSMALL TEH ABOVEfV",
  "eTHREE DOTS ABOVE DOWNWARDScTEHEHdFINAL FORMdINITIAL FORMdISOLATED FORMdMEDIAL FORMcTHAL",
  "dFINAL FORMdISOLATED FORMcTHEHdFINAL FORMdINITIAL FORMdISOLATED FORMdMEDIAL FORMcTHIN YEHcTTEH",
  "dFINAL FORMdINITIAL FORMdISOLATED FORMdMEDIAL FORMdWITH SMALL VcTTEHEHdFINAL FORMdINITIAL FORM",
  "dISOLATED FORMdMEDIAL FORMcUdFINAL FORMdISOLATED FORMdWITH HAMZA ABOVEgISOLATED FORM",
  "cUIGHUR KAZAKH KIRGHIZ ALEF MAKSURA INITIAL FORMhMEDIAL FORMcVEdFINAL FORMdISOLATED FORMcVEH",
  "dFINAL FORMdINITIAL FORMdISOLATED FORMdMEDIAL FORMcWAWdFINAL FORMdISOLATED FORMdWITH DOT ABOVE",
  "fWITHINeEXTENDED ARABIC-INDIC DIGIT THREE ABOVEhTWO ABOVEeHAMZA ABOVEgFINAL FORMgISOLATED FORM",
  "eRINGeTWO DOTS ABOVEcYEHdBARREEeFINAL FORMeISOLATED FORM",
  "eWITH EXTENDED ARABIC-INDIC DIGIT THREE ABOVEiTWO ABOVEfHAMZA ABOVEhFINAL FORMhISOLATED FORM",
  "dFINAL FORMdINITIAL FORMdISOLATED FORMdMEDIAL FORMdWITH HAMZA ABOVEgFINAL FORMgINITIAL FORM",
  "gISOLATED FORMgMEDIAL FORMeSMALL VeTAILeTHREE DOTS BELOWeTWO DOTS BELOW AND DOT ABOVE",
  "iHAMZA ABOVEiSMALL NOON ABOVEcYUdFINAL FORMdISOLATED FORMcZAHdFINAL FORMdINITIAL FORM",
  "dISOLATED FORMdMEDIAL FORMcZAINdFINAL FORMdISOLATED FORMdWITH INVERTED V ABOVE",
  "bLIGATURE AIN WITH ALEF MAKSURA FINAL FORMgISOLATED FORMeJEEM INITIAL FORMfISOLATED FORM",
  "fWITH MEEM FINAL FORMhINITIAL FORMeMEEM INITIAL FORMfISOLATED FORM",
  "fWITH ALEF MAKSURA FINAL FORMgMEEM FINAL FORMhINITIAL FORMgYEH FINAL FORMeYEH FINAL FORM",
  "fISOLATED FORMcAKBAR ISOLATED FORMcALAYHAA AS-SALAAMcALAYHE ISOLATED FORMcALAYHI AS-SALAAM",
  "dAS-SALAATU WAS-SALAAMcALAYHIM AS-SALAAMcALAYHIMAA AS-SALAAM",
  "cALEF MAKSURA WITH SUPERSCRIPT ALEF FINAL FORMhISOLATED FORMdWITH FATHATAN FINAL FORM",
  "fISOLATED FORMcALLAH ISOLATED FORMcAZZA WA JALLcBEH WITH ALEF MAKSURA FINAL FORMgISOLATED FORM",
  "eHAH INITIAL FORMfISOLATED FORMfWITH YEH FINAL FORMeHEH INITIAL FORMfMEDIAL FORM",
  "eJEEM INITIAL FORMfISOLATED FORMeKHAH INITIAL FORMfISOLATED FORMfWITH YEH FINAL FORM",
  "eMEEM FINAL FORMfINITIAL FORMfISOLATED FORMfMEDIAL FORMeNOON FINAL FORMeREH FINAL FORM",
  "eYEH FINAL FORMfISOLATED FORMeZAIN FINAL FORMcBISMILLAH AR-RAHMAN AR-RAHEEM",
  "cDAD WITH ALEF MAKSURA FINAL FORMgISOLATED FORMeHAH INITIAL FORMfISOLATED FORM",
  "fWITH ALEF MAKSURA FINAL FORMgYEH FINAL FORMeJEEM INITIAL FORMfISOLATED FORMeKHAH INITIAL FORM",
  "fISOLATED FORMfWITH MEEM FINAL FORMhINITIAL FORMeMEEM INITIAL FORMfISOLATED FORM",
  "eREH FINAL FORMfISOLATED FORMeYEH FINAL FORMfISOLATED FORMcFEH WITH ALEF MAKSURA FINAL FORM",
  "gISOLATED FORMeHAH INITIAL FORMfISOLATED FORMeJEEM INITIAL FORMfISOLATED FORM",
  "eKHAH INITIAL FORMfISOLATED FORMfWITH MEEM FINAL FORMhINITIAL FORMeMEEM INITIAL FORM",
  "fISOLATED FORMfWITH YEH FINAL FORMeYEH FINAL FORMfISOLATED FORM",
  "cGHAIN WITH ALEF MAKSURA FINAL FORMgISOLATED FORMeJEEM INITIAL FORMfISOLATED FORM",
  "eMEEM INITIAL FORMfISOLATED FORMfWITH ALEF MAKSURA FINAL FORMgMEEM FINAL FORMgYEH FINAL FORM",
  "eYEH FINAL FORMfISOLATED FORMcHAH WITH ALEF MAKSURA FINAL FORMgISOLATED FORMeJEEM INITIAL FORM",
  "fISOLATED FORMfWITH YEH FINAL FORMeMEEM INITIAL FORMfISOLATED FORM",
  "fWITH ALEF MAKSURA FINAL FORMgYEH FINAL FORMeYEH FINAL FORMfISOLATED FORM",
  "cHEH WITH ALEF MAKSURA ISOLATED FORMeJEEM INITIAL FORMfISOLATED FORMeMEEM INITIAL FORM",
  "fISOLATED FORMfWITH JEEM INITIAL FORMgMEEM INITIAL FORMeSUPERSCRIPT ALEF INITIAL FORM",
  "eYEH ISOLATED FORMcJALLAJALALOUHOUcJEEM WITH ALEF MAKSURA FINAL FORMgISOLATED FORM",
  "eHAH INITIAL FORMfISOLATED FORMfWITH ALEF MAKSURA FINAL FORMgYEH FINAL FORMeMEEM INITIAL FORM",
  "fISOLATED FORMfWITH ALEF MAKSURA FINAL FORMgHAH FINAL FORMhINITIAL FORMgYEH FINAL FORM",
  "eYEH FINAL FORMfISOLATED FORMcKAF WITH ALEF FINAL FORMfISOLATED FORMfMAKSURA FINAL FORM",
  "gISOLATED FORMeHAH INITIAL FORMfISOLATED FORMeJEEM INITIAL FORMfISOLATED FORM",
  "eKHAH INITIAL FORMfISOLATED FORMeLAM FINAL FORMfINITIAL FORMfISOLATED FORMfMEDIAL FORM",
  "eMEEM FINAL FORMfINITIAL FORMfISOLATED FORMfMEDIAL FORMfWITH MEEM FINAL FORMhINITIAL FORM",
  "gYEH FINAL FORMeYEH FINAL FORMfISOLATED FORMcKHAH WITH ALEF MAKSURA FINAL FORMgISOLATED FORM",
  "eHAH ISOLATED FORMeJEEM INITIAL FORMfISOLATED FORMeMEEM INITIAL FORMfISOLATED FORM",
  "eYEH FINAL FORMfISOLATED FORMcLAM WITH ALEF FINAL FORMfISOLATED FORMfMAKSURA FINAL FORM",
  "gISOLATED FORMfWITH HAMZA ABOVE FINAL FORMiISOLATED FORMhBELOW FINAL FORMiISOLATED FORM",
  "gMADDA ABOVE FINAL FORMiISOLATED FORMeHAH INITIAL FORMfISOLATED FORM",
  "fWITH ALEF MAKSURA FINAL FORMgMEEM FINAL FORMhINITIAL FORMgYEH FINAL FORMeHEH INITIAL FORM",
  "eJEEM INITIAL FORMfISOLATED FORMfWITH JEEM FINAL FORMhINITIAL FORMgMEEM FINAL FORM",
  "hINITIAL FORMgYEH FINAL FORMeKHAH INITIAL FORMfISOLATED FORMfWITH MEEM FINAL FORMhINITIAL FORM",
  "eMEEM FINAL FORMfINITIAL FORMfISOLATED FORMfMEDIAL FORMfWITH HAH FINAL FORMhINITIAL FORM",
  "gYEH FINAL FORMeYEH FINAL FORMfISOLATED FORMcMEEM WITH ALEF FINAL FORMfMAKSURA ISOLATED FORM",
  "eHAH INITIAL FORMfISOLATED FORMfWITH JEEM INITIAL FORMgMEEM INITIAL FORMgYEH FINAL FORM",
  "eJEEM INITIAL FORMfISOLATED FORMfWITH HAH INITIAL FORMgKHAH INITIAL FORMgMEEM INITIAL FORM",
  "gYEH FINAL FORMeKHAH INITIAL FORMfISOLATED FORMfWITH JEEM INITIAL FORMgMEEM INITIAL FORM",
  "gYEH FINAL FORMeMEEM FINAL FORMfINITIAL FORMfISOLATED FORMfWITH YEH FINAL FORM",
  "eYEH ISOLATED FORMcMOHAMMAD ISOLATED FORMcNOON WITH ALEF MAKSURA FINAL FORMgISOLATED FORM",
  "eHAH INITIAL FORMfISOLATED FORMfWITH ALEF MAKSURA FINAL FORMgMEEM INITIAL FORMgYEH FINAL FORM",
  "eHEH INITIAL FORMfMEDIAL FORMeJEEM INITIAL FORMfISOLATED FORMfWITH ALEF MAKSURA FINAL FORM",
  "gHAH FINAL FORMhINITIAL FORMgMEEM FINAL FORMhINITIAL FORMgYEH FINAL FORMeKHAH INITIAL FORM",
  "fISOLATED FORMeMEEM FINAL FORMfINITIAL FORMfISOLATED FORMfMEDIAL FORM",
  "fWITH ALEF MAKSURA FINAL FORMgYEH FINAL FORMeNOON FINAL FORMeREH FINAL FORMeYEH FINAL FORM",
  "fISOLATED FORMeZAIN FINAL FORMcQAF WITH ALEF MAKSURA FINAL FORMgISOLATED FORMeHAH INITIAL FORM",
  "fISOLATED FORMeMEEM INITIAL FORMfISOLATED FORMfWITH HAH FINAL FORMhINITIAL FORM",
  "gMEEM FINAL FORMgYEH FINAL FORMeYEH FINAL FORMfISOLATED FORM",
  "cQALA USED AS KORANIC STOP SIGN ISOLATED FORMcQUDDISA SIRRAHcRADI ALLAAHU ANHeANHAAeANHUM",
  "eANHUMAAeANHUNNAcRAHIMAHU ALLAAHcRAHIMAHUM ALLAAHcRASOUL ISOLATED FORM",
  "cREH WITH SUPERSCRIPT ALEF ISOLATED FORMcSAD WITH ALEF MAKSURA FINAL FORMgISOLATED FORM",
  "eHAH INITIAL FORMfISOLATED FORMfWITH HAH FINAL FORMhINITIAL FORMgYEH FINAL FORM",
  "eKHAH INITIAL FORMeMEEM INITIAL FORMfISOLATED FORMfWITH MEEM FINAL FORMhINITIAL FORM",
  "eREH FINAL FORMfISOLATED FORMeYEH FINAL FORMfISOLATED FORMcSALAAMUHU ALAYNAA",
  "cSALAM ISOLATED FORMcSALLA ISOLATED FORMdUSED AS KORANIC STOP SIGN ISOLATED FORM",
  "cSALLALLAAHU ALAYHI WA-AALIHcSALLALLAHOU ALAYHE WASALLAMcSALLALLAHU ALAYHI WAAALIHEE WA-SALLAM",
  "cSEEN WITH ALEF MAKSURA FINAL FORMgISOLATED FORMeHAH INITIAL FORMfISOLATED FORMfMEDIAL FORM",
  "fWITH JEEM INITIAL FORMeHEH INITIAL FORMfMEDIAL FORMeJEEM INITIAL FORMfISOLATED FORM",
  "fMEDIAL FORMfWITH ALEF MAKSURA FINAL FORMgHAH INITIAL FORMeKHAH INITIAL FORMfISOLATED FORM",
  "fMEDIAL FORMfWITH ALEF MAKSURA FINAL FORMgYEH FINAL FORMeMEEM INITIAL FORMfISOLATED FORM",
  "fMEDIAL FORMfWITH HAH FINAL FORMhINITIAL FORMgJEEM INITIAL FORMgMEEM FINAL FORMhINITIAL FORM",
  "eREH FINAL FORMfISOLATED FORMeYEH FINAL FORMfISOLATED FORMcSHADDA WITH DAMMA ISOLATED FORM",
  "fMEDIAL FORMeDAMMATAN ISOLATED FORMeFATHA ISOLATED FORMfMEDIAL FORMeKASRA ISOLATED FORM",
  "fMEDIAL FORMeKASRATAN ISOLATED FORMeSUPERSCRIPT ALEF ISOLATED FORM",
  "cSHEEN WITH ALEF MAKSURA FINAL FORMgISOLATED FORMeHAH FINAL FORMfINITIAL FORMfISOLATED FORM",
  "fMEDIAL FORMfWITH MEEM FINAL FORMhINITIAL FORMgYEH FINAL FORMeHEH INITIAL FORMfMEDIAL FORM",
  "eJEEM FINAL FORMfINITIAL FORMfISOLATED FORMfMEDIAL FORMfWITH YEH FINAL FORMeKHAH FINAL FORM",
  "fINITIAL FORMfISOLATED FORMfMEDIAL FORMeMEEM FINAL FORMfINITIAL FORMfISOLATED FORMfMEDIAL FORM",
  "fWITH KHAH FINAL FORMhINITIAL FORMgMEEM FINAL FORMhINITIAL FORMeREH FINAL FORMfISOLATED FORM",
  "eYEH FINAL FORMfISOLATED FORMcSUBHAANAHU WA TAAALAAcTABAARAKA WA-TAAALAA",
  "cTAH WITH ALEF MAKSURA FINAL FORMgISOLATED FORMeHAH INITIAL FORMfISOLATED FORM",
  "eMEEM INITIAL FORMfISOLATED FORMfMEDIAL FORMfWITH HAH FINAL FORMhINITIAL FORM",
  "gMEEM INITIAL FORMgYEH FINAL FORMeYEH FINAL FORMfISOLATED FORM",
  "cTEH WITH ALEF MAKSURA FINAL FORMgISOLATED FORMeHAH INITIAL FORMfISOLATED FORM",
  "fWITH JEEM FINAL FORMhINITIAL FORMgMEEM INITIAL FORMeHEH INITIAL FORMfMEDIAL FORM",
  "eJEEM INITIAL FORMfISOLATED FORMfWITH ALEF MAKSURA FINAL FORMgMEEM INITIAL FORMgYEH FINAL FORM",
  "eKHAH INITIAL FORMfISOLATED FORMfWITH ALEF MAKSURA FINAL FORMgMEEM INITIAL FORMgYEH FINAL FORM",
  "eMEEM FINAL FORMfINITIAL FORMfISOLATED FORMfMEDIAL FORMfWITH ALEF MAKSURA FINAL FORM",
  "gHAH INITIAL FORMgJEEM INITIAL FORMgKHAH INITIAL FORMgYEH FINAL FORMeNOON FINAL FORM",
  "eREH FINAL FORMeYEH FINAL FORMfISOLATED FORMeZAIN FINAL FORM",
  "cTHAL WITH SUPERSCRIPT ALEF ISOLATED FORMcTHEH WITH ALEF MAKSURA FINAL FORMgISOLATED FORM",
  "eHEH MEDIAL FORMeJEEM ISOLATED FORMeMEEM FINAL FORMfINITIAL FORMfISOLATED FORMfMEDIAL FORM",
  "eNOON FINAL FORMeREH FINAL FORMeYEH FINAL FORMfISOLATED FORMeZAIN FINAL FORM",
  "cUIGHUR KIRGHIZ YEH WITH HAMZA ABOVE WITH ALEF MAKSURA FINAL FORMlINITIAL FORMlISOLATED FORM",
  "cWASALLAM ISOLATED FORMcYEH WITH ALEF MAKSURA FINAL FORMgISOLATED FORMeHAH INITIAL FORM",
  "fISOLATED FORMfWITH YEH FINAL FORMeHAMZA ABOVE WITH AE FINAL FORMiISOLATED FORM",
  "hALEF FINAL FORMiISOLATED FORMiMAKSURA FINAL FORMjISOLATED FORMhE FINAL FORMiINITIAL FORM",
  "iISOLATED FORMhHAH INITIAL FORMiISOLATED FORMhHEH INITIAL FORMiMEDIAL FORMhJEEM INITIAL FORM",
  "iISOLATED FORMhKHAH INITIAL FORMhMEEM FINAL FORMiINITIAL FORMiISOLATED FORMiMEDIAL FORM",
  "hNOON FINAL FORMhOE FINAL FORMiISOLATED FORMhREH FINAL FORMhU FINAL FORMiISOLATED FORM",
  "hWAW FINAL FORMiISOLATED FORMhYEH FINAL FORMiISOLATED FORMhYU FINAL FORMiISOLATED FORM",
  "hZAIN FINAL FORMeHEH INITIAL FORMfMEDIAL FORMeJEEM INITIAL FORMfISOLATED FORM",
  "fWITH YEH FINAL FORMeKHAH INITIAL FORMfISOLATED FORMeMEEM FINAL FORMfINITIAL FORM",
  "fISOLATED FORMfMEDIAL FORMfWITH MEEM FINAL FORMhINITIAL FORMgYEH FINAL FORMeNOON FINAL FORM",
  "eREH FINAL FORMeYEH FINAL FORMfISOLATED FORMeZAIN FINAL FORMcZAH WITH MEEM INITIAL FORM",
  "fISOLATED FORMfMEDIAL FORMbMADDA WAAJIBbMADDAH ABOVEbMARK NOON GHUNNAcSIDEWAYS NOON GHUNNA",
  "bMATHEMATICAL AINcALEFcBEHcDADcDALcDOTLESS BEHdFEHdNOONdQAFcDOUBLE-STRUCK AINdBEHdDADdDALdFEH",
  "dGHAINdHAHdJEEMdKHAHdLAMdMEEMdNOONdQAFdREHdSADdSEENdSHEENdTAHdTEHdTHALdTHEHdWAWdYEHdZAHdZAIN",
  "cFEHcGHAINcHAHcINITIAL AINdBEHdDADdFEHdGHAINdHAHdHEHdJEEMdKAFdKHAHdLAMdMEEMdNOONdQAFdSADdSEEN",
  "dSHEENdTEHdTHEHdYEHcJEEMcKAFcKHAHcLAMcLOOPED AINdALEFdBEHdDADdDALdFEHdGHAINdHAHdHEHdJEEMdKHAH",
  "dLAMdMEEMdNOONdQAFdREHdSADdSEENdSHEENdTAHdTEHdTHALdTHEHdWAWdYEHdZAHdZAINcMEEMcNOON",
  "cOPERATOR HAH WITH DALdMEEM WITH HAH WITH TATWEELcQAFcREHcSADcSEENcSHEENcSTRETCHED AINdBEHdDAD",
  "dDOTLESS BEHeFEHdFEHdGHAINdHAHdHEHdJEEMdKAFdKHAHdMEEMdNOONdQAFdSADdSEENdSHEENdTAHdTEHdTHEHdYEH",
  "dZAHcTAHcTAILED AINdDADdDOTLESS NOONeQAFdGHAINdHAHdJEEMdKHAHdLAMdNOONdQAFdSADdSEENdSHEENdYEH",
  "cTEHcTHALcTHEHcWAWcYEHcZAHcZAINbNUMBER MARK ABOVEcSIGNbOPEN DAMMATANcFATHATANcKASRATAN",
  "bPERCENT SIGNbPIASTRE MARK ABOVEbPLACE OF SAJDAHbPOETIC VERSE SIGNbPOUND MARK ABOVE",
  "bQUESTION MARKbRAISED ROUND DOTbRAYbREVERSED DAMMAbRIGHT ARROWHEAD ABOVEeWITH DOTdBELOW",
  "bROUNDED HIGH STOP WITH FILLED CENTREbSEMICOLONbSHADDAcISOLATED FORMcMEDIAL FORM",
  "bSIGN ALAYHE ASSALLAMcMISRAcRADI ALLAHOU ANHUcRAHMATULLAH ALAYHEcSAFHA",
  "cSALLALLAHOU ALAYHE WASSALLAMcSAMVATcSANAHcSINDHI AMPERSANDdPOSTPOSITION MENcTAKHALLUS",
  "bSMALL DAMMAcFARSI YEHcFATHAcHIGH AINdDOTLESS HEAD OF KHAHdFARSI YEHdFOOTNOTE MARKERdJEEM",
  "dLAM ALEFdLIGATURE ALEF WITH LAM WITH YEHeQAF WITH LAM WITH ALEF MAKSURA",
  "eSAD WITH LAM WITH ALEF MAKSURAdMADDAdMEEM INITIAL FORMeISOLATED FORMdNOONeWITH KASRAdQAF",
  "dROUNDED ZEROdSADdSEENdSIGN SAFHAdTAHdTHREE DOTSdUPRIGHT RECTANGULAR ZEROdWAWdWORD AL-JUZ",
  "eAN-NISFeAR-RUBeAS-SAJDAeATH-THALATHAeQIFeSAHeSAKTAeWAQFAdYEHeBARREE WITH TWO DOTS BELOWdZAH",
  "dZAINcKASRAcLOW MEEMdNOON WITH KASRAdSEENdWAWdWORD IMAALAeISHMAAMeTASHEELcWAWcYEH",
  "bSTART OF RUB EL HIZBbSUBSCRIPT ALEFbSUKUNcBELOWcISOLATED FORMcMEDIAL FORM",
  "bSUPERSCRIPT ALEF MOKHASSASbSYMBOL DOT ABOVEdBELOWcDOUBLE VERTICAL BAR BELOWcFOUR DOTS ABOVE",
  "eBELOWcRINGcSMALL TAH ABOVEeBELOWcTHREE DOTS ABOVEeBELOWePOINTING DOWNWARDS ABOVEgBELOW",
  "cTWO DOTS ABOVEeBELOWeVERTICALLY ABOVEfBELOWcWASLA ABOVEbTAIL FRAGMENTbTATWEEL",
  "cWITH FATHATAN ABOVEdOVERSTRUCK HAMZAeWAWdTWO DOTS BELOWbTHOUSANDS SEPARATORbTONE LOOP ABOVE",
  "dBELOWcONE DOT ABOVEeBELOWcTWO DOTS ABOVEeBELOWbTRIPLE DOT PUNCTUATION MARKbTURNED DAMMA BELOW",
  "bVERTICAL TAILbVOWEL SIGN DOT BELOWdINVERTED SMALL V ABOVEdSMALL V ABOVEbWAVY HAMZA BELOW",
  "bZWARAKAYaARABIC-INDIC CUBE ROOTbDIGIT EIGHTcFIVEcFOURcNINEcONEcSEVENcSIXcTHREEcTWOcZERO",
  "bFOURTH ROOTbPER MILLE SIGNcTEN THOUSAND SIGNaARCaARIESaARMENIAN ABBREVIATION MARKbAPOSTROPHE",
  "bCAPITAL LETTER AYBdBENdCAdCHAdCHEHdCOdDAdECHdEHdETdFEHdGHADdGIMdHOdINIdJAdJHEHdKEHdKENdLIWN",
  "dMENdNOWdOHdPEHdPIWRdRAdREHdSEHdSHAdTIWNdTOdVEWdVOdXEHdYIdYIWNdZAdZHEbCOMMAbDRAM SIGN",
  "bEMPHASIS MARKbEXCLAMATION MARKbFULL STOPbHYPHENbMODIFIER LETTER LEFT HALF RINGbQUESTION MARK",
  "bSMALL LETTER AYBdBENdCAdCHAdCHEHdCOdDAdECHdEHdETdFEHdGHADdGIMdHOdINIdJAdJHEHdKEHdKENdLIWNdMEN",
  "dNOWdOHdPEHdPIWRdRAdREHdSEHdSHAdTIWNdTOdTURNED AYBdVEWdVOdXEHdYIeWITH STROKEdYIWNdZAdZHE",
  "cLIGATURE ECH YIWNdMEN ECHeINIeNOWeXEHdVEW NOWaARROW POINTING DOWNWARDS THEN CURVING LEFTWARDS",
  "fRIGHTWARDScRIGHTWARDS THEN CURVING DOWNWARDSfSOUTH WESTfUPWARDScUPWARDS THEN NORTH WEST",
  "aARROWHEAD-SHAPED POINTERaARTICULATED LORRYaARTIST PALETTEaASCENDING NODEaASCIA SYMBOL",
  "aASSERTIONaASTERISKbOPERATORaASTERISMaASTONISHED FACEaASTRAEAaASTRONOMICAL SYMBOL FOR URANUS",
  "aASYMPTOTICALLY EQUAL TOaATHLETIC SHOEaATOM SYMBOLaAUBERGINEaAUSTRAL SIGNaAUTO RICKSHAW",
  "aAUTOMATED TELLER MACHINEaAUTOMOBILEaAVESTAN ABBREVIATION MARKbLETTER AcAAcAANcAAOcAEcAEEcAN",
  "cAOcBEcBHEcCEcDEcDHEcEcEEcFEcGEcGGEcGHEcHEcHMEcIcIIcJEcKEcLEcMEcNEcNGEcNGVEcNGYEcNNEcNYEcOcOO",
  "cPEcREcSEcSHEcSHYEcSSHEcTEcTHEcTTEcUcUUcVEcXEcXVEcXYEcYEcYYEcZEcZHEaAVOCADOaAXEaBABYbANGEL",
  "bBOTTLEbCHICKbSYMBOLaBACK OF ENVELOPEbWITH LEFTWARDS ARROW ABOVE",
  "aBACK-TILTED SHADOWED WHITE RIGHTWARDS ARROWaBACKSLANTED SOUTH ARROW WITH HOOKED TAIL",
  "eHORIZONTAL TAILaBACKSPACEaBACONaBACTRIAN CAMELaBADGERaBADMINTON RACQUET AND SHUTTLECOCKaBAGEL",
  "aBAGGAGE CLAIMaBAGUETTE BREADaBALINESE ADEG ADEGbCARIK PAMUNGKAHcPARERENcSIKIbDIGIT EIGHTcFIVE",
  "cFOURcNINEcONEcSEVENcSIXcTHREEcTWOcZERObLETTER AIKARAcAKARAdTEDUNGcARCHAIC JNYAcASYURA SASAK",
  "cBAdKEMBANGcCAdLACAcDAdMADUdMURDA ALPAPRANAeMAHAPRANAcEF SASAKcEKARAcGAdGORAcHAcIKARAdTEDUNG",
  "cJAdJERAcKAdMAHAPRANAcKAF SASAKcKHOT SASAKcLAdLENGAeTEDUNGcMAcNAdRAMBATcNGAcNYAcOKARAdTEDUNG",
  "cPAdKAPALcRAdREPAeTEDUNGcSAdSAGAdSAPAcTAdLATIKdMURDA MAHAPRANAdTAWAcTZIR SASAKcUKARAdTEDUNG",
  "cVE SASAKcWAcYAcZAL SASAKbMUSICAL SYMBOL COMBINING BENDEeENDEPeGONGeJEGOGANeKEMPLI",
  "fWITH JEGOGANeKEMPULfWITH JEGOGANeTEGEHdDAENGdDAINGdDANGeGEDEeSURANGdDENGdDEUNGdDINGdDONGdDUNG",
  "dLEFT-HAND CLOSED PLAKfPLUKeOPEN PANGfPINGfPUNGdRIGHT-HAND CLOSED TAKfTUKeOPEN DAGfDUGbPAMADA",
  "cLANTANGbPAMENENGbPANTIcLANTANGbSIGN BISAHcCECEKcREREKANcSURANGcULU CANDRAdRICEM",
  "bVOWEL SIGN LA LENGAfTEDUNGdPEPETeTEDUNGdRA REPAfTEDUNGdSUKUeILUTdTALINGeREPAfTEDUNGeTEDUNG",
  "dTEDUNGdULUeSARIbWINDUaBALL OF YARNaBALLET SHOESaBALLOONaBALLOON-SPOKED ASTERISK",
  "aBALLOT BOLD SCRIPT XbBOXcWITH BALLOTdBOLD CHECKeSCRIPT XdCHECKdLIGHT XdSCRIPT XdXbSCRIPT XbX",
  "aBAMUM COLONbCOMBINING MARK KOQNDONdTUKWENTISbCOMMAbFULL STOPbLETTER AcEEcFAAMAEcFEEcFOMcFUcI",
  "cKAcKENcKETcKEUXcKIcKOcKOGHOMcKOVUUcKPAcKUcKYEEcLAcLEEEEcLIcLOQcLUcMcMAcMBAAcMBENcMEEEEcMENcMI",
  "cMOcMUcNAcNDAAcNGAcNGGAcNGKWAENcNIcNJAEMcNJEEcNJUAEcNSHAcNTEEcNTUUcNUcNUAEcNYIcOcPAcPEEcPEUX",
  "cPHASE-A FIRIdGBIEE FONdGHEUAEGHEUAEdGHEUAERAEdKAFAdKAQdKETdKEUKEUTNDAdKPOQdKUOQdLAPAQdLET KUT",
  "dLOMMAEdLUdLUAEPdMAEKEUPdMAEMdMAEMBGBIEEdMAEMKPENdMAEMVEUXdMAENYIdMAESIdMANSUAEdMAP PIEET",
  "dMBANYIdMBAQdMEUNJOMNDEUQdMGBASAdMON NGGEUAETdMOOMEUTdMOOMPUQdMVEUAENGAMdNAA MFONdNAQ",
  "dNDA LEERAEWAdNDAANGGEUAETdNENdNGANGUdNGGENdNGKUE MFONdNGKUENZEUMdNIKAdNJAMdNKAARAEdNKINDI",
  "dNSHAdNSHIEEdNTAPeMFAAeNTAAdNTOQPENdNYETdNYIdNYIT MONGKEUAEQdNZA MFONdNZUN MEUTdPA LEERAEWA",
  "dPAAMdPAARAEdPAMSHAEdPASHAEdPETdPON MFON PIPAEMBAfPIPAEMGBIEEePA NJI PIPAEMBAgPIPAEMGBIEEdPUP",
  "dROMdSEUNYAMdSHINDA PA NJIdSHIRAEdSHOQ NSHUT YUMdSHUENSHUETdSHUMdSISAdSONJAMdSOQdSOTdSUU",
  "dTEUAENdTEUTEUWENdTITA MFONdTU MAEMBAdTUAEPdU YUQ NAEdUNKNOWNdVEEcPHASE-B FEEdFEUXdGHEUGHEN",
  "dGHEUGHEUAEMdKAMdKEUAEMdKEUPUQdKEUYEUXdKIEEMdKIQdLAANAEdLAM NSHUT NYAMdLETdLOM NTEUMdMA",
  "eNJEUAENAeNJUQAdMBA MAELEEdMBAARAEdMBEURIdMBIT MBAAKETdMBUOQdMEUQdMEUT NGGEETdMFIYAQ",
  "dMFON TEUAEQdMONTIEENdNDU NJAAdNGGAAMdNGGEU MBUdNGGUOQeLARGEdNGKINDI MVOPdNGOMdNSENdNSHUET",
  "dNTIEE SHEUOQdNYAEMAEdNYI NTEUMdPARUMdPEESHIdPITdPUNGAAMdSAKEUAEdSET TUdSHET NJAQdSHEUAEQTU",
  "dSIEEdSUEdTAAMdTU MAEMGBIEEeNSIEEdVEUMdWUAETdYAFU LEERAEWAdYEURAEcPHASE-C BUNGdFUEdGBAYIdGHAP",
  "dGHARAEdKAAdKEN FATIGUEeLAWdKETdKEUKAQdKEUMdKEUSEUXdKEUSHEUAEPdKPARAQdKUOP NKAARAEdKUTdLAMdLAP",
  "dLIQdLUdMA KEUAERIeNSIEEdMAEMBAdMAESIdMBAA CABBAGE-TREEePICKETdMBANYIdMBEEKEETdMBERAEdMBEUM",
  "dMBEUXdMBIdMBIRIEENdMBITdMBUAEMdMBUEdMGBASAQdMIEEdMUAEdNANSANAQdNAQdNDAMdNDAPdNDEUAEREEdNDEUT",
  "dNDIDAdNDOMBUdNGAQdNGGENdNGGUdNGGUAEN NYAMdNGGUEETdNGGUMdNGGUONdNGKAQdNGKUE MAEMBAdNGOMdNJAEM",
  "dNJAMdNJEEEEdNJEUXdNJUEQdNSAdNSEUAENdNSHAQdNSOMdNSUNdNSUOT NGOMdNTAAdNTENdNTEUNGBAdNTU MBIT",
  "dNYIR MKPARAQ MEUNdNZAdNZEUMdPENdPINdPIRIEENdRUdSETFONdSEUXdSHIQdSHUEQdSUAETdTAASHAEdTET",
  "dTEUTEUXdTITA YUEdTITUAEPdVEUAEPENdVEUXdWANGKUOQdWUPdYAAdYEUQdYU MUOMAEdYUMdYUWOQcPHASE-D FAA",
  "dFEUFEUAETdGHAAdGHEUAEdKETdKEUAETMEUNdKEUMdKEUOT MBUAEdKEUPdKUdKUNdKUOMdKUQdKWAETdKYEEdLEEEE",
  "dLETdLEUAEPdLEUMdLIEEdLOQdLUMdMdMAENJETdMALEERIdMBAAeSEVENdMBUOdMEEEEdMEUNdMEUTdMFEUAEdMFEUT",
  "dMFIEEdMFOdMFONdMGBEUNdMGBIEEdMGBOFUMdMONIdMUdMVOPdNDAMdNDEEdNDEUXdNDONdNGGAAMdNGGAAMAEdNGGAP",
  "dNGGEUXdNGGUOMdNGGWAENdNGKAPdNGKEUAEQdNGKEURIdNGKIEEdNGKUNdNGKYEEdNIdNJAPdNJEUAEMdNJEUTdNJI",
  "dNJIEEdNJUEQdNSHEEdNSHUTdNSIEEPdNSIEETdNSUMdNTEEdNTEUMdNTUUdNUdNYAMdNYETdNYIdNYUEdPAPdPEE",
  "dPEUTAEdPIPdPUQdPUUTdRAEMdREN MUCHeOLDdRIIdSAPdSAQdSEUAEQdSHEEdSHEUAEdSHEUXdSHIIdSHOQdSHUdSOT",
  "dSUAEdSUEdSUUdTAEdTEEEEdTEUAENdTEUNdTEUTdTIdTOQdTUdTUOTdWAPdWUAENdYAEMMAEdYENdYUOMdYUOPdYUWOQ",
  "cPHASE-E AdFAdFAQdFEEdFOMdFU CALLeIeREMEDYdFUEdFUETdGBETdGBEUXdGHAAMAEdGHETdGHEUAEdGHEUNdGHEUX",
  "dGHOMdIdKETdKEUAEdKEUXdKIdKOdKPEUXdKUETdKUOPdKUTdLAAMdLAPdLAQdLEUAEMdLOMdLOONdLOOTdLOQdLUdMA",
  "dMAEdMAEMdMAPdMAQdMBEEdMBEUMdMENdMFEUQdMGBAdMGBENdMIdMIEEdMONdMUAEdMVIdNAdNAEdNDAA MY HOUSE",
  "eSOFTNESSdNDAPdNDIAQdNDIQdNDUNdNGAdNGEUREUTdNGGEEEEdNGGEUAEdNGGEUAETdNGGUAESHAE NYAMdNGGUP",
  "dNGGURAEdNGKAdNGKAAMIdNGKEUAEMdNGKEUXdNGKUMdNGKUPdNGOPdNGOQdNGUAEdNGUAETdNJAEMLIdNJEEeEPOCH",
  "dNJEUXdNKOMdNSHIEEdNSHUEdNSHUOPdNTAPdNTUMdNYI BETWEENeCLEAVERdNZAQdNZUQdOdPA PEOPLEePLURALdPAA",
  "dPAAMdPEEMdPEUTdPEUXdPIdPIEEQdPIETdPOdPOONdPUdPUAEdPUAQdPUEdPUMdRAEdRAQdREUXdRIMGBAdSAAdSEE",
  "dSETdSHEUAEQdSHIQdSHOdSHOQdSOMdSUAENdTAAdTAAQdTAEN NTEUMdTAMdTAQdTENdTEUdTEUAEQdTOOdTOONdTOQ",
  "dTUAEdTUMdTUMAEdVEEdVEUAEdVOMdWEUXdWUEdWUOdYAPdYEUAEdYEUAETdYEUMdYEUXdYIEEdYITdYOQ COVER",
  "eSWIMMINGdYUAENdYUEQdYUNdYUQcPHASE-F EEdFOMdKAdKENdKETdKOdKPAdKUdKYEEdLAdLIdLOQdMdMAdMBAAdMBEN",
  "dMEEEEdMOdNDAAdNGGAdNGKWAENdNIdNJAEMdNJUAEdNSHAdNTEEdNUdNUAEdNYIdPEEdPEUXdPUAEdREEdRENdREUX",
  "dRIEEdRIIdRUdSAMBAdSEUXdSHIIdSHOdSHUdSIdSUUdTAAdTAEdTETdUdVUEQdWAdWUEdYAdYOQcPIcPUAEcPUEcRAE",
  "cREEcRENcREUXcRIEEcRIIcRUcSAMBAcSEUXcSHEUXcSHIIcSHOcSHUcSIcSUUcTAAcTAEcTENcTETcTIcUcWAcWUEcYA",
  "cYOQcYUQbNJAEMLIbQUESTION MARKbSEMICOLONaBANANAaBANJOaBANKaBANKNOTE WITH DOLLAR SIGNcEURO SIGN",
  "cPOUND SIGNcYEN SIGNaBAR CHARTbOF SOAPaBARBER POLEaBASEBALLaBASKETaBASKETBALL AND HOOP",
  "aBASSA VAH COMBINING HIGH TONEdHIGH-LOW TONEdLOW TONEdLOW-MID TONEdMID TONEcFULL STOPcLETTER A",
  "dBAdCEdDHIIdDOdEdEEdENNIdFAdGAHdGBUdHWAHdIdJOdKAdKPAHdMBEdOdOOdPAdSEdTOdUdUWUdVUdWAdWADDAdYEIN",
  "dYIEdZOaBATaBATAK CONSONANT SIGN HdNGbLETTER AcBAcCAcDAcGAcHAcIcJAcKARO BAcLAcMAcMANDAILING HA",
  "dNAdSAcMBAcNAcNDAcNGAcNORTHERN TAcNYAcPAcPAKPAK WAcRAcSAcSIMALUNGUN AdGAdHAdLAdMAdPAdRAdSAdWA",
  "dYAcSOUTHERN TAcUcWAcYAbPANGOLATbPANONGONANbSIGN TOMPIbSYMBOL BINDU JUDULdNA METEKdPANGOLAT",
  "dPINARBORASbVOWEL SIGN EdEEdIdKARO IeOdOdPAKPAK EdUeFOR SIMALUNGUN SAaBATHaBATHTUBaBATTERY",
  "aBEACH WITH UMBRELLAaBEAMED ASCENDING MUSICAL NOTESbDESCENDING MUSICAL NOTESbEIGHTH NOTES",
  "bSIXTEENTH NOTESaBEANSaBEAR FACEaBEARDED PERSONaBEATING HEARTaBEAVERaBECAUSEaBEDaBEER MUG",
  "aBEETLEaBELaBELLbPEPPERbSYMBOLbWITH CANCELLATION STROKEaBELLHOP BELLaBENGALI ABBREVIATION SIGN",
  "bANJIbAU LENGTH MARKbCURRENCY DENOMINATOR SIXTEENcNUMERATOR FOURdONEeLESS THAN THE DENOMINATOR",
  "dTHREEdTWObDIGIT EIGHTcFIVEcFOURcNINEcONEcSEVENcSIXcTHREEcTWOcZERObGANDA MARKbISSHARbLETTER A",
  "cAAcAIcAUcBAcBHAcCAcCHAcDAcDDAcDDHAcDHAcEcGAcGHAcHAcIcIIcJAcJHAcKAcKHAcKHANDA TAcLAcMAcNAcNGA",
  "cNNAcNYAcOcPAcPHAcRAdWITH LOWER DIAGONALeMIDDLE DIAGONALcRHAcRRAcSAcSHAcSSAcTAcTHAcTTAcTTHAcU",
  "cUUcVEDIC ANUSVARAcVOCALIC LdLLdRdRRcYAcYYAbRUPEE MARKcSIGNbSANDHI MARKbSIGN ANUSVARAcAVAGRAHA",
  "cCANDRABINDUcNUKTAcVIRAMAcVISARGAbVOWEL SIGN AAdAIdAUdEdIdIIdOdUdUUdVOCALIC LeLLeReRR",
  "aBENT ARROW POINTING DOWNWARDS THEN NORTH EASTaBENTO BOXaBENZENE RINGcWITH CIRCLEaBET SYMBOL",
  "aBETWEENaBEVERAGE BOXaBHAIKSUKI DANDAbDIGIT EIGHTcFIVEcFOURcNINEcONEcSEVENcSIXcTHREEcTWOcZERO",
  "bDOUBLE DANDAbGAP FILLER-1cFILLER-2bHUNDREDS UNIT MARKbLETTER AcAAcAIcAUcBAcBHAcCAcCHAcDAcDDA",
  "cDDHAcDHAcEcGAcGHAcHAcIcIIcJAcJHAcKAcKHAcLAcMAcNAcNGAcNNAcNYAcOcPAcPHAcRAcSAcSHAcSSAcTAcTHA",
  "cTTAcTTHAcUcUUcVAcVOCALIC LdRdRRcYAbNUMBER EIGHTcEIGHTYcFIFTYcFIVEcFORTYcFOURcNINEcNINETYcONE",
  "cSEVENcSEVENTYcSIXcSIXTYcTENcTHIRTYcTHREEcTWENTYcTWObSIGN ANUSVARAcAVAGRAHAcCANDRABINDUcVIRAMA",
  "cVISARGAbVOWEL SIGN AAdAIdAUdEdIdIIdOdUdUUdVOCALIC LeReRRbWORD SEPARATORaBICYCLEaBICYCLIST",
  "aBIG REVERSE SOLIDUSbSOLIDUSaBIKINIaBILLED CAPaBILLIARDSaBIOHAZARD SIGNaBIRDaBIRTHDAY CAKE",
  "aBISONaBITCOIN SIGNaBITING LIPaBLACK BOWTIEbCENTRE WHITE STARbCHESS BISHOP",
  "dROTATED NINETY DEGREESeTWO HUNDRED SEVENTY DEGREEScEQUIHOPPERdROTATED NINETY DEGREEScKING",
  "dROTATED NINETY DEGREESeTWO HUNDRED SEVENTY DEGREEScKNIGHTdROTATED FORTY-FIVE DEGREES",
  "eNINETY DEGREESeONE HUNDRED THIRTY-FIVE DEGREESeTHREE HUNDRED FIFTEEN DEGREES",
  "eTWO HUNDRED SEVENTY DEGREESgTWENTY-FIVE DEGREEScKNIGHT-BISHOPcKNIGHT-QUEENcKNIGHT-ROOKcPAWN",
  "dROTATED NINETY DEGREESeTWO HUNDRED SEVENTY DEGREEScQUEENdROTATED NINETY DEGREES",
  "eTWO HUNDRED SEVENTY DEGREEScROOKdROTATED NINETY DEGREESeTWO HUNDRED SEVENTY DEGREES",
  "cTURNED BISHOPdKINGdKNIGHTdPAWNdQUEENdROOKbCIRCLEcFOR RECORDcWITH DOWN ARROWdTWO WHITE DOTS",
  "dWHITE DOT RIGHTbCLUB SUITbCROSS ON SHIELDbCURVED DOWNWARDS AND LEFTWARDS ARROW",
  "eRIGHTWARDS ARROWcLEFTWARDS AND DOWNWARDS ARROWeUPWARDS ARROWcRIGHTWARDS AND DOWNWARDS ARROW",
  "eUPWARDS ARROWcUPWARDS AND LEFTWARDS ARROWeRIGHTWARDS ARROWbDIAMONDcCENTREDcMINUS WHITE X",
  "cON CROSScSUITcWITH DOWN ARROWbDOWN POINTING BACKHAND INDEXbDOWN-POINTING DOUBLE TRIANGLE",
  "cISOSCELES RIGHT TRIANGLEcSMALL TRIANGLEcTRIANGLEbDOWNWARDS EQUILATERAL ARROWHEAD",
  "bDRAUGHTS KINGcMANbDROPLETbFLAGbFLORETTEbFOLDERbFOUR POINTED STARbHARD SHELL FLOPPY DISKbHEART",
  "cSUITbHEXAGONbHORIZONTAL ELLIPSEbHOURGLASSbLARGE CIRCLEcSQUAREbLEFT LANE MERGE",
  "cPOINTING BACKHAND INDEXdINDEXbLEFT-POINTING DOUBLE TRIANGLEeWITH VERTICAL BAR",
  "cISOSCELES RIGHT TRIANGLEcPOINTERcSMALL TRIANGLEcTRIANGLEbLEFTWARDS BULLET",
  "cEQUILATERAL ARROWHEADbLOWER LEFT TRIANGLEcRIGHT TRIANGLEbLOZENGEbMEDIUM DIAMOND",
  "cDOWN-POINTING TRIANGLEeCENTREDcLEFT-POINTING TRIANGLEeCENTREDcLOZENGEcRIGHT-POINTING TRIANGLE",
  "eCENTREDcSMALL DIAMONDdLOZENGEdSQUAREcSQUAREcUP-POINTING TRIANGLEeCENTREDbMOON LILITHbNIB",
  "bOCTAGONbPARALLELOGRAMbPENNANTbPENTAGONbPUSHPINbQUESTION MARK ORNAMENTbRECTANGLE",
  "bRIGHT POINTING BACKHAND INDEXdINDEXbRIGHT-POINTING DOUBLE TRIANGLEeWITH VERTICAL BAR",
  "cISOSCELES RIGHT TRIANGLEcPENTAGONcPOINTERcSMALL TRIANGLEcTRIANGLEdWITH DOUBLE VERTICAL BAR",
  "bRIGHTWARDS ARROWcARROWHEADcBULLETcEQUILATERAL ARROWHEADbROSETTEbSAFETY SCISSORSbSCISSORS",
  "bSHOGI PIECEbSKULL AND CROSSBONESbSLIGHTLY SMALL CIRCLEdSQUAREbSMALL DIAMONDcLOZENGEcSQUARE",
  "cSTARbSMILING FACEbSNOWMANbSPADE SUITbSQUAREcBUTTONcCENTREDcFOR STOPbSTARbSUN WITH RAYS",
  "bTELEPHONEbTINY DIAMONDcLOZENGEcSQUAREbTOUCHTONE TELEPHONEbTRUCKbTWO-WAY LEFT WAY TRAFFIC",
  "bUNIVERSAL RECYCLING SYMBOLbUP POINTING BACKHAND INDEXbUP-POINTING DOUBLE TRIANGLE",
  "cISOSCELES RIGHT TRIANGLEcSMALL TRIANGLEcTRIANGLEbUPPER LEFT TRIANGLEcRIGHT TRIANGLE",
  "bUPWARDS EQUILATERAL ARROWHEADbVERTICAL ELLIPSEcRECTANGLEbVERY SMALL DIAMONDdLOZENGEdSQUARE",
  "aBLACK-FEATHERED NORTH EAST ARROWbRIGHTWARDS ARROWbSOUTH EAST ARROWaBLACK-LETTER CAPITAL CcHcI",
  "cRcZaBLANK SYMBOLaBLOCK SEXTANT-1bSEXTANT-12bSEXTANT-123bSEXTANT-1234bSEXTANT-12345",
  "bSEXTANT-12346bSEXTANT-1235bSEXTANT-12356bSEXTANT-1236bSEXTANT-124bSEXTANT-1245bSEXTANT-12456",
  "bSEXTANT-1246bSEXTANT-125bSEXTANT-1256bSEXTANT-126bSEXTANT-13bSEXTANT-134bSEXTANT-1345",
  "bSEXTANT-13456bSEXTANT-1346bSEXTANT-1356bSEXTANT-136bSEXTANT-14bSEXTANT-145bSEXTANT-1456",
  "bSEXTANT-146bSEXTANT-15bSEXTANT-156bSEXTANT-16bSEXTANT-2bSEXTANT-23bSEXTANT-234bSEXTANT-2345",
  "bSEXTANT-23456bSEXTANT-2346bSEXTANT-235bSEXTANT-2356bSEXTANT-236bSEXTANT-24bSEXTANT-245",
  "bSEXTANT-2456bSEXTANT-25bSEXTANT-256bSEXTANT-26bSEXTANT-3bSEXTANT-34bSEXTANT-345bSEXTANT-3456",
  "bSEXTANT-346bSEXTANT-35bSEXTANT-356bSEXTANT-36bSEXTANT-4bSEXTANT-45bSEXTANT-456bSEXTANT-46",
  "bSEXTANT-5bSEXTANT-56bSEXTANT-6aBLOSSOMaBLOWFISHaBLUE BOOKbHEARTaBLUEBERRIESaBOAR",
  "aBOLD EIGHT SPOKED ASTERISKbFIVE SPOKED ASTERISKbGREEK CROSSbSALTIREbSIX SPOKED ASTERISK",
  "bWHITE CIRCLEcSQUAREaBOMaBOMBaBONEaBOOKaBOOKMARKbTABSaBOOKSaBOOMERANGaBOPOMOFO FINAL LETTER G",
  "dHdKdPdTbLETTER AcAHcAIcAINNcAMcANcANGcANNcAUcAUNNcBcBUcCcCHcDcEcEEcEHcEIcENcENGcENNcERcFcGcGH",
  "cGNcGUcGWcHcIcIHcIMcINNcINNNcIRcIUcJcJIcKcKWcLcLHcMcNcNGcNGGcNNcOdWITH DOT ABOVEcOEcOMcONGcONN",
  "cOOcOUcPcQcRcScSHcTcUcUNNcVcXcZcZHcZIcZYaBOTTLE WITH POPPING CORK",
  "aBOTTOM ARC ANTICLOCKWISE ARROWbCURLY BRACKETbHALF BLACK CIRCLEcINTEGRALcLEFT PARENTHESIS",
  "cRIGHT PARENTHESISbLEFT CORNERcCROPcHALF BRACKETbPARENTHESISbRIGHT CORNERcCROPcHALF BRACKET",
  "bSQUARE BRACKETdOVER TOP SQUARE BRACKETbTORTOISE SHELL BRACKETaBOUQUETbOF FLOWERS",
  "aBOW AND ARROWaBOWL OF HYGIEIAbWITH SPOONaBOWLINGaBOWTIEbWITH LEFT HALF BLACKcRIGHT HALF BLACK",
  "aBOX DRAWINGS DOUBLE DOWN AND HORIZONTALfLEFTfRIGHTdHORIZONTALdUP AND HORIZONTALfLEFTfRIGHT",
  "dVERTICALeAND HORIZONTALfLEFTfRIGHTcDOWN DOUBLE AND HORIZONTAL SINGLEfLEFT SINGLEfRIGHT SINGLE",
  "dHEAVY AND HORIZONTAL LIGHTfLEFT LIGHTgUP LIGHTfRIGHT LIGHTgUP LIGHTfUP HORIZONTAL LIGHT",
  "dLIGHT AND HORIZONTAL HEAVYfLEFT HEAVYgUP HEAVYfRIGHT HEAVYgUP HEAVYfUP HORIZONTAL HEAVY",
  "dSINGLE AND HORIZONTAL DOUBLEfLEFT DOUBLEfRIGHT DOUBLEcHEAVY DOUBLE DASH HORIZONTALfVERTICAL",
  "dDOWNeAND HORIZONTALfLEFTfRIGHTdHORIZONTALdLEFTeAND LIGHT RIGHTdQUADRUPLE DASH HORIZONTAL",
  "fVERTICALdRIGHTdTRIPLE DASH HORIZONTALfVERTICALdUPeAND HORIZONTALfLEFTfLIGHT DOWNfRIGHT",
  "dVERTICALeAND HORIZONTALfLEFTfRIGHTcLEFT DOWN HEAVY AND RIGHT UP LIGHT",
  "dHEAVY AND RIGHT DOWN LIGHTgUP LIGHTgVERTICAL LIGHTdLIGHT AND RIGHT DOWN HEAVYgUP HEAVY",
  "gVERTICAL HEAVYdUP HEAVY AND RIGHT DOWN LIGHTcLIGHT ARC DOWN AND LEFTgRIGHTeUP AND LEFTgRIGHT",
  "dDIAGONAL CROSSeDIAMONDeMIDDLE LEFT TO LOWER CENTREjTO MIDDLE RIGHT",
  "hUPPER CENTRE TO MIDDLE RIGHTmTO LOWER CENTREfRIGHT TO LOWER CENTRE",
  "hUPPER CENTRE TO MIDDLE LEFT TO LOWER CENTREeUPPER CENTRE TO MIDDLE LEFT",
  "jAND MIDDLE RIGHT TO LOWER CENTREjTO LOWER CENTREmTO MIDDLE RIGHTiRIGHT",
  "jAND MIDDLE LEFT TO LOWER CENTREjTO LOWER CENTREmTO MIDDLE LEFTfLEFT TO LOWER RIGHT",
  "fRIGHT TO LOWER LEFTdDOUBLE DASH HORIZONTALfVERTICALdDOWNeAND HORIZONTALfLEFTfRIGHTdHORIZONTAL",
  "eWITH VERTICAL STROKEdLEFTeAND HEAVY RIGHTdQUADRUPLE DASH HORIZONTALfVERTICALdRIGHT",
  "dTRIPLE DASH HORIZONTALfVERTICALdUPeAND HEAVY DOWNfHORIZONTALfLEFTfRIGHTdVERTICAL",
  "eAND HORIZONTALfLEFTfRIGHTcRIGHT DOWN HEAVY AND LEFT UP LIGHTdHEAVY AND LEFT DOWN LIGHT",
  "gUP LIGHTgVERTICAL LIGHTdLIGHT AND LEFT DOWN HEAVYgUP HEAVYgVERTICAL HEAVY",
  "dUP HEAVY AND LEFT DOWN LIGHTcUP DOUBLE AND HORIZONTAL SINGLEfLEFT SINGLEfRIGHT SINGLE",
  "dHEAVY AND DOWN HORIZONTAL LIGHTfHORIZONTAL LIGHTfLEFT DOWN LIGHTgLIGHTfRIGHT DOWN LIGHTgLIGHT",
  "dLIGHT AND DOWN HORIZONTAL HEAVYfHORIZONTAL HEAVYfLEFT DOWN HEAVYgHEAVYfRIGHT DOWN HEAVYgHEAVY",
  "dSINGLE AND HORIZONTAL DOUBLEfLEFT DOUBLEfRIGHT DOUBLEcVERTICAL DOUBLE AND HORIZONTAL SINGLE",
  "fLEFT SINGLEfRIGHT SINGLEdHEAVY AND HORIZONTAL LIGHTfLEFT LIGHTfRIGHT LIGHT",
  "dLIGHT AND HORIZONTAL HEAVYfLEFT HEAVYfRIGHT HEAVYdSINGLE AND HORIZONTAL DOUBLEfLEFT DOUBLE",
  "fRIGHT DOUBLEaBOXING GLOVEaBOYaBOYS SYMBOLaBPHaBRAHMI DANDAbDIGIT EIGHTcFIVEcFOURcNINEcONE",
  "cSEVENcSIXcTHREEcTWOcZERObDOUBLE DANDAbLETTER AcAAcAIcAUcBAcBHAcCAcCHAcDAcDDAcDDHAcDHAcEcGA",
  "cGHAcHAcIcIIcJAcJHAcKAcKHAcLAcLLAcMAcNAcNGAcNNAcNYAcOcOLD TAMIL LLAeLLLAeNNNAeRRAeSHORT EfOcPA",
  "cPHAcRAcSAcSHAcSSAcTAcTHAcTTAcTTHAcUcUUcVAcVOCALIC LdLLdRdRRcYAbNUMBER EIGHTcEIGHTYcFIFTYcFIVE",
  "cFORTYcFOURcJOINERcNINEcNINETYcONEdHUNDREDdTHOUSANDcSEVENcSEVENTYcSIXcSIXTYcTENcTHIRTYcTHREE",
  "cTWENTYcTWObPUNCTUATION CRESCENT BARcDOTcDOUBLE DOTcLINEcLOTUSbSIGN ANUSVARAcCANDRABINDU",
  "cJIHVAMULIYAcOLD TAMIL VIRAMAcUPADHMANIYAcVISARGAbVIRAMAbVOWEL SIGN AAdAIdAUdBHATTIPROLU AAdE",
  "dIdIIdOdOLD TAMIL SHORT EgOdUdUUdVOCALIC LeLLeReRRaBRAILLE PATTERN BLANKcDOTS-1cDOTS-12",
  "cDOTS-123cDOTS-1234cDOTS-12345cDOTS-123456cDOTS-1234567cDOTS-12345678cDOTS-1234568cDOTS-123457",
  "cDOTS-1234578cDOTS-123458cDOTS-12346cDOTS-123467cDOTS-1234678cDOTS-123468cDOTS-12347",
  "cDOTS-123478cDOTS-12348cDOTS-1235cDOTS-12356cDOTS-123567cDOTS-1235678cDOTS-123568cDOTS-12357",
  "cDOTS-123578cDOTS-12358cDOTS-1236cDOTS-12367cDOTS-123678cDOTS-12368cDOTS-1237cDOTS-12378",
  "cDOTS-1238cDOTS-124cDOTS-1245cDOTS-12456cDOTS-124567cDOTS-1245678cDOTS-124568cDOTS-12457",
  "cDOTS-124578cDOTS-12458cDOTS-1246cDOTS-12467cDOTS-124678cDOTS-12468cDOTS-1247cDOTS-12478",
  "cDOTS-1248cDOTS-125cDOTS-1256cDOTS-12567cDOTS-125678cDOTS-12568cDOTS-1257cDOTS-12578cDOTS-1258",
  "cDOTS-126cDOTS-1267cDOTS-12678cDOTS-1268cDOTS-127cDOTS-1278cDOTS-128cDOTS-13cDOTS-134",
  "cDOTS-1345cDOTS-13456cDOTS-134567cDOTS-1345678cDOTS-134568cDOTS-13457cDOTS-134578cDOTS-13458",
  "cDOTS-1346cDOTS-13467cDOTS-134678cDOTS-13468cDOTS-1347cDOTS-13478cDOTS-1348cDOTS-135cDOTS-1356",
  "cDOTS-13567cDOTS-135678cDOTS-13568cDOTS-1357cDOTS-13578cDOTS-1358cDOTS-136cDOTS-1367",
  "cDOTS-13678cDOTS-1368cDOTS-137cDOTS-1378cDOTS-138cDOTS-14cDOTS-145cDOTS-1456cDOTS-14567",
  "cDOTS-145678cDOTS-14568cDOTS-1457cDOTS-14578cDOTS-1458cDOTS-146cDOTS-1467cDOTS-14678cDOTS-1468",
  "cDOTS-147cDOTS-1478cDOTS-148cDOTS-15cDOTS-156cDOTS-1567cDOTS-15678cDOTS-1568cDOTS-157",
  "cDOTS-1578cDOTS-158cDOTS-16cDOTS-167cDOTS-1678cDOTS-168cDOTS-17cDOTS-178cDOTS-18cDOTS-2",
  "cDOTS-23cDOTS-234cDOTS-2345cDOTS-23456cDOTS-234567cDOTS-2345678cDOTS-234568cDOTS-23457",
  "cDOTS-234578cDOTS-23458cDOTS-2346cDOTS-23467cDOTS-234678cDOTS-23468cDOTS-2347cDOTS-23478",
  "cDOTS-2348cDOTS-235cDOTS-2356cDOTS-23567cDOTS-235678cDOTS-23568cDOTS-2357cDOTS-23578cDOTS-2358",
  "cDOTS-236cDOTS-2367cDOTS-23678cDOTS-2368cDOTS-237cDOTS-2378cDOTS-238cDOTS-24cDOTS-245",
  "cDOTS-2456cDOTS-24567cDOTS-245678cDOTS-24568cDOTS-2457cDOTS-24578cDOTS-2458cDOTS-246cDOTS-2467",
  "cDOTS-24678cDOTS-2468cDOTS-247cDOTS-2478cDOTS-248cDOTS-25cDOTS-256cDOTS-2567cDOTS-25678",
  "cDOTS-2568cDOTS-257cDOTS-2578cDOTS-258cDOTS-26cDOTS-267cDOTS-2678cDOTS-268cDOTS-27cDOTS-278",
  "cDOTS-28cDOTS-3cDOTS-34cDOTS-345cDOTS-3456cDOTS-34567cDOTS-345678cDOTS-34568cDOTS-3457",
  "cDOTS-34578cDOTS-3458cDOTS-346cDOTS-3467cDOTS-34678cDOTS-3468cDOTS-347cDOTS-3478cDOTS-348",
  "cDOTS-35cDOTS-356cDOTS-3567cDOTS-35678cDOTS-3568cDOTS-357cDOTS-3578cDOTS-358cDOTS-36cDOTS-367",
  "cDOTS-3678cDOTS-368cDOTS-37cDOTS-378cDOTS-38cDOTS-4cDOTS-45cDOTS-456cDOTS-4567cDOTS-45678",
  "cDOTS-4568cDOTS-457cDOTS-4578cDOTS-458cDOTS-46cDOTS-467cDOTS-4678cDOTS-468cDOTS-47cDOTS-478",
  "cDOTS-48cDOTS-5cDOTS-56cDOTS-567cDOTS-5678cDOTS-568cDOTS-57cDOTS-578cDOTS-58cDOTS-6cDOTS-67",
  "cDOTS-678cDOTS-68cDOTS-7cDOTS-78cDOTS-8aBRAINaBREADaBREAK PERMITTED HEREaBREAST-FEEDINGaBREVE",
  "aBRICKaBRIDE WITH VEILaBRIDGE AT NIGHTaBRIEFCASEaBRIEFSaBROCCOLIaBROKEN BAR",
  "bCIRCLE WITH NORTHWEST ARROWbHEARTaBROOMaBROWN HEARTaBSaBUBBLE TEAaBUBBLESaBUCKETaBUG",
  "aBUGINESE END OF SECTIONbLETTER AcBAcCAcDAcGAcHAcJAcKAcLAcMAcMPAcNAcNGAcNGKAcNRAcNYAcNYCAcPA",
  "cRAcSAcTAcVAcYAbPALLAWAbVOWEL SIGN AEdEdIdOdUaBUHID LETTER AcBAcDAcGAcHAcIcKAcLAcMAcNAcNGAcPA",
  "cRAcSAcTAcUcWAcYAbVOWEL SIGN IdUaBUILDING CONSTRUCTIONaBULLETbOPERATORaBULLHORN",
  "bWITH SOUND WAVESaBULLSEYEaBURRITOaBUSbSTOPaBUST IN SILHOUETTEaBUSTS IN SILHOUETTEaBUTTER",
  "aBUTTERFLYaBYTE ORDER MARKaBYZANTINE MUSICAL SYMBOL AGOGI ARGIeARGOTERIeGORGIeGORGOTERIeMESI",
  "eMETRIAePOLI ARGIfGORGIdANATRICHISMAdANTIKENOKYLISMAdANTIKENOMAdAPESO EKFONITIKONeEXO NEOdAPLI",
  "dAPODERMA ARCHAIONeNEOdAPOSTROFOI SYNDESMOS NEOeTELOUS ICHIMATOSdAPOSTROFOSeDIPLIeNEOdAPOTHEMA",
  "dARGONdARGOSYNTHETONdARKTIKO DIeGAeKEeNIePAeVOUeZOdCHAMILIdCHAMILONdCHOREVMA ARCHAIONeNEO",
  "dCHROA KLITONeSPATHIeZYGOSdDASEIAdDIARGONdDIASTOLI APLI MEGALIfMIKRIeDIPLIeTHESEOS",
  "dDIESIS APLI DYO DODEKATAeDIGRAMMOS EX DODEKATAeMONOGRAMMOS TESSERA DODEKATAeTETARTIMORION",
  "eTRIGRAMMOS OKTO DODEKATAeTRITIMORIONdDIFTOGGOS OUdDIGORGONePARESTIGMENON ARISTERA ANOgKATO",
  "fDEXIAdDIGRAMMA GGdDIPLIeARCHAIONdDYOdEKSTREPTONdELAFRONdENARXIS KAI FTHORA VOUdENDOFONON",
  "dEPEGERMAdETERON ARGOSYNTHETONePARAKALESMAdEXO EKFONITIKONdFANEROSIS DIFONIASeMONOFONIAS",
  "eTETRAFONIASdFHTORA SKLIRON CHROMA VASISdFTHORA ARCHAIONfDEYTEROU ICHOUeDIATONIKI DIfKEfNANA",
  "fNI ANOgKATOfPAfZOeENARMONIOS ANTIFONIAeI YFESIS TETARTIMORIONeMALAKON CHROMA DIFONIAS",
  "gMONOFONIASeNAOS ICHOSeNENANOeSKLIRON CHROMA SYNAFIgVASISfDIATONON DIdGENIKI DIESISeYFESIS",
  "dGORGON ARCHAIONeNEO ANOfKATOePARESTIGMENON ARISTERAfDEXIAdGORGOSYNTHETONdGORTHMIKON N APLOUN",
  "fDIPLOUNdGRONTHISMATAdICHADINdIMIDIARGONdIMIFONONdIMIFTHORAdIMIFTHORONdISAKIA TELOUS ICHIMATOS",
  "dISON ARCHAIONeNEOdKATAVA TROMIKONdKATAVASMAdKATHISTIdKENTIMA ARCHAIONeNEO ANOfKATOfMESO",
  "dKENTIMATAeARCHAIONeNEO ANOfKATOfMESOdKLASMAeANOeKATOdKONTEVMAeALLOdKORONISdKOUFISMA",
  "dKRATIMA ALLOeARCHAIONeNEOdKRATIMATAdKRATIMOKOUFISMAdKRATIMOYPORROONdKREMASTIdKYLISMA",
  "dLEIMMA DYO CHRONONeENOS CHRONOUeIMISEOS CHRONOUeTESSARON CHRONONeTRION CHRONONdLEMOIdLYGISMA",
  "dMARTYRIA ALLI DEYTEROS ICHOSfPROTOS ICHOSeDEYTEROS ICHOSeLEGETOS ICHOSePLAGIOS ICHOS",
  "fTETARTOS ICHOSePROTOS ICHOSePROTOVARYS ICHOSeTETARTOS ICHOSfLEGETOS ICHOSeTRIFONIAS",
  "eTRITOS ICHOSeVARYS ICHOSdMIKRON ISONdNANAdOLIGON ARCHAIONeNEOdOMALONdOXEIA DIPLIeEKFONITIKON",
  "eNEOdOXEIAI ARCHAIONdOYRANISMA ARCHAIONeNEOdPARAKALESMA ARCHAIONeNEOdPARAKLITIKIeARCHAIONeNEO",
  "dPARICHONdPELASTONeNEOdPERISPOMENIdPETASMAdPETASTIdPETASTOKOUFISMAdPIASMA ARCHAIONeNEO",
  "dPSIFISTOLYGISMAdPSIFISTONeNEOdPSIFISTOPARAKALESMAdPSIFISTOSYNAGMAdPSILIdPSILONdRAPISMAdREVMA",
  "dSAXIMATAdSEISMAeNEOdSIMANSIS ARSEOSfDISIMOUfTETRASIMOUfTRISIMOUeTHESEOSfDISIMOUfTETRASIMOU",
  "fTRISIMOUdSTAVROSeAPODEXIAdSTIGMAdSTRAGGISMATAdSYNAGMA ARCHAIONeMETA STAVROUeNEOdSYNEVMAdSYRMA",
  "dSYRMATIKIdTELEIAdTESSERAdTETRAPLIdTHEMAeAPLOUNdTHEMATISMOS ESOeEXOdTHES KAI APOTHESdTHITA",
  "dTINAGMAdTRIAdTRIGORGONdTRIPLIdTROMIKOLYGISMAdTROMIKON ALLOeARCHAIONeNEOdTROMIKOPARAKALESMA",
  "dTROMIKOPSIFISTONdTROMIKOSYNAGMAdVAREIA DIPLIeEKFONITIKONeNEOdVAREIAI ARCHAIONdVATHY",
  "dXIRON KLASMAdYFEN ANOeKATOdYFESIS APLI DYO DODEKATAeDIGRAMMOS EX DODEKATA",
  "eMONOGRAMMOS TESSERA DODEKATAeTRIGRAMMOS OKTO DODEKATAeTRITIMORIONdYPOKRISISeDIPLIdYPORROI",
  "dYPSILIaCACTUSaCADA UNAaCADUCEUSaCALENDARaCALL ME HANDaCAMERAbWITH FLASHaCAMPINGaCAN",
  "aCANADIAN SYLLABICS AcAAcAAIcAAYcAIcAIVILIK BcANcATHAPASCAN MdScAYcBEAVER DENE LeR",
  "cBIBLE-CREE YcBLACKFOOT AdEdIdKAdKEdKIdKOdNAdNEdNIdNOdOdSdWdWAdWEdWIdWOcCcCAcCAAcCAAI",
  "cCARRIER CHAdCHEdCHEEdCHIdCHOdCHUdDEEdDENE GEEdDENTAL SdDIdDLAdDLEdDLEEdDLIdDLOdDLUdDZAdDZE",
  "dDZEEdDZIdDZOdDZUdEEdGAdGAAdGEdGEEdGHAdGHEdGHEEdGHIdGHOdGHUdGIdGOdGUdGWAdGWUdHdHEEdHIdHWAdHWE",
  "dHWEEdHWIdHWOdHWUdIdINITIAL ZdJAdJEdJEEdJIdJJAdJJEdJJEEdJJIdJJOdJJUdJOdJUdJWAdKHAdKHEdKHEEdKHI",
  "dKHOdKHUdKKdKKAdKKEdKKEEdKKIdKKOdKKUdLAdLEdLEEdLHAdLHEdLHEEdLHIdLHOdLHUdLIdLOdLUdMAdMEdMEEdMI",
  "dMOdMUdNAdNEdNEEdNGdNIdNOdNUdPdPAdPEdPEEdPIdPOdPUdRAdREdREEdRIdROdRUdSAdSEdSEEdSHdSHAdSHEdSHEE",
  "dSHIdSHOdSHUdSIdSOdSUdTHAdTHEdTHEEdTHIdTHOdTHUdTLAdTLEdTLEEdTLHAdTLHEdTLHEEdTLHIdTLHOdTLHUdTLI",
  "dTLOdTLUdTSAdTSEdTSEEdTSIdTSOdTSUdTTAdTTEdTTEEdTTIdTTOdTTSAdTTSEdTTSEEdTTSIdTTSOdTTSUdTTUdWA",
  "dWEdWEEdWIdWOdWUdYAdYEdYEEdYIdYOdYUdZdZAdZEdZEEdZIdZOdZUcCEcCHI SIGNcCIcCIIcCOcCOOcCWAcCWAA",
  "cCWEcCWIcCWIIcCWOcCWOOcEcEASTERN WcENcFcFAcFAAcFAAIcFEcFIcFIIcFINAL ACUTEdBOTTOM HALF RING",
  "dDOUBLE ACUTEeSHORT VERTICAL STROKESdDOWN TACKdGRAVEdMIDDLE DOTdPLUSdRAISED DOT",
  "dRIGHT HALF RINGdRINGdSHORT HORIZONTAL STROKEdSMALL RINGdTOP HALF RINGcFOcFOOcFULL STOPcFWAA",
  "cGLOTTAL STOPcHKcHYPHENcIcIIcINcKcKAcKAAcKAAIcKAYcKEcKIcKIIcKOcKOOcKWcKWAcKWAAcKWAYcKWEcKWI",
  "cKWIIcKWOcKWOOcLcLAcLAAcLAAIcLAYcLEcLHcLHAcLHAAcLHIcLHIIcLHOcLHOOcLIcLIIcLOcLOOcLWAcLWAAcLWE",
  "cLWIcLWIIcLWOcLWOOcMcMAcMAAcMAAIcMAYcMEcMEDIAL LdRcMHcMIcMIIcMOcMOOcMOOSE-CREE SKcMWAcMWAAcMWE",
  "cMWIcMWIIcMWOcMWOOcNcN-CREE THEdTHIdTHIIcNAcNAAcNAAIcNASKAPI CWAAdKWAAdMWAAdNWAAdS-WdSCWAdSKW",
  "dSKWAdSPWAdSTWAdSWAAdTWAAdWAAdWOOdYWAAcNATTILIK HAdHAAdHIdHIIdHOdHOOdSHRAdSHRAAdSHRIdSHRII",
  "dSHROdSHROOcNAYcNEcNGcNGAcNGAAcNGAAIcNGAIcNGIcNGIIcNGOcNGOOcNHcNIcNIIcNNGcNNGAcNNGAAcNNGI",
  "cNNGIIcNNGOcNNGOOcNOcNOOcNOYcNUNAVIK HdHAdHAAdHEdHIdHIIdHOdHOOcNUNAVUT HcNWAcNWAAcNWEcNWIcNWII",
  "cNWOcNWOOcOcOJIBWAY CdKdMdNdNWIdNWIIdNWOdNWOOdPdSdSHdTcONcOOcOYcPcPAcPAAcPAAIcPAYcPEcPIcPIIcPO",
  "cPOOcPOYcPWAcPWAAcPWEcPWIcPWIIcPWOcPWOOcPWOYcQcQAcQAAcQAAIcQAIcQIcQIIcQOcQOOcRcR-CREE REdRWE",
  "cRAcRAAcRAAIcRAYcREcRIcRIIcROcROOcRWAcRWAAcRWEEcRWIcRWIIcRWOcRWOOcScSAcSAAcSAAIcSAYcSAYISI HA",
  "dHEdHIdHOdHOOdJIdJUdJUUdMdSHAdSHEdSHIdSHOdSHOOdSHWEdTHdYIcSEcSHcSHAcSHAAcSHAYcSHEcSHIcSHIIcSHO",
  "cSHOOcSHOYcSHWAcSHWAAcSHWEcSHWIcSHWIIcSHWOcSHWOOcSHWOYcSIcSIIcSOcSOOcSOUTH-SLAVEY KAHdKEHdKIH",
  "dKOHcSOYcSPAcSPEcSPIcSPOcSWcSWAcSWAAcSWEcSWIcSWIIcSWOcSWOOcTcTAcTAAcTAAIcTAYcTEcTHcTH-CREE TH",
  "dTHAdTHAAdTHEdTHIdTHIIdTHOdTHOOcTHAcTHAAcTHEcTHIcTHIIcTHOcTHOOcTHWAcTHWAAcTHWEcTIcTIIcTLHA",
  "cTLHEcTLHIcTLHOcTLHOOcTLHWEcTOcTOOcTTAcTTEcTTHcTTHAcTTHAAcTTHEcTTHIcTTHOcTTHOOcTTHWEcTTIcTTO",
  "cTWAcTWAAcTWEcTWIcTWIIcTWOcTWOOcTYAcTYEcTYIcTYOcWAcWAAcWAYcWEcWEST-CREE CWAdCWAAdCWEdCWIdCWII",
  "dCWOdCWOOdFWAAdKWAdKWAAdKWEdKWIdKWIIdKWOdKWOOdLdLAdLAAdLEdLOdLOOdLWAdLWAAdLWEdLWIdLWIIdLWO",
  "dLWOOdMdMWAdMWAAdMWEdMWIdMWIIdMWOdMWOOdNWAdNWAAdNWEdPdPWAdPWAAdPWEdPWIdPWIIdPWOdPWOOdRdRAdRE",
  "dRIdROdRWAAdSHWAdSHWAAdSHWEdSHWIdSHWIIdSHWOdSHWOOdSWAdSWAAdSWEdSWIdSWIIdSWOdSWOOdTHWAAdTWA",
  "dTWAAdTWEdTWIdTWIIdTWOdTWOOdWAdWAAdWEdWIdWIIdWOdWOOdYdYWAdYWAAdYWEdYWIdYWIIdYWOdYWOOcWESTERN W",
  "cWIcWIIcWOcWOOcWOODS-CREE FINAL THdTHdTHAdTHEdTHIdTHOdTHWAdTHWAAdTHWEEdTHWIdTHWIIdTHWOdTHWOOcY",
  "cY-CREE COOdKOOdLOOdMOOdNOOdOOdPOOdPWAAdSOOdTOOdWdYOOcYAcYAAcYAAIcYAYcYEcYIcYIIcYOcYOOcYOYcYWA",
  "cYWAAcYWEcYWIcYWIIcYWOcYWOOaCANCELbCHARACTERbTAGaCANCELLATION XaCANCERaCANDLEaCANDY",
  "aCANNED FOODaCANOEaCAPITULUMaCAPRICORNaCAR SLIDINGaCARD FILE BOXbINDEXcDIVIDERSaCARE OFaCARET",
  "bINSERTION POINTaCARIAN LETTER AcA2cBcC-18cC-39cDcD2cEcE2cGcG2cIcIIcKcK2cLcLDcLD2cMcMBcMB2cMB3",
  "cMB4cNcNDcNGcNNcOcPcP2cQcRcRRcScSHcSH2cSScSTcST2cTcTTcTT2cUcUUcUUUcUUU2cUUU3cUUUUcXaCARON",
  "aCAROUSEL HORSEaCARP STREAMERaCARPENTRY SAWaCARRIAGE RETURNaCARROTaCASTLEaCATbFACE",
  "cWITH TEARS OF JOYdWRY SMILEaCAUCASIAN ALBANIAN CITATION MARKcLETTER ALTdAORdBETdCARdCAYNdCHA",
  "dCHATdCHIdCHOYdCYAWdCYAYdDATdDYANdDZAYdDZYAYdEBdEYNdFAMdGHEYSdGIMdHEYTdINYAdIRBdIWNdJAYNdJHOX",
  "dKARdKIWdLANdLYITdMAQdNOWCdONdPENdPIWRdQARdQAYdRATdSEYKdSHAdSHAKdSHOYdTASdTIWRdTYAYdVEYZdXEYN",
  "dYAYDdYOWDdZARLdZHAdZHILaCAUTION SIGNaCCHaCEDI SIGNaCEDILLAaCELTIC CROSSaCENT SIGN",
  "aCENTRE LINE SYMBOLaCENTRELINE LOW LINEbOVERLINEaCERESaCGJaCHAINSaCHAIRaCHAKMA AU MARKbDANDA",
  "bDIGIT EIGHTcFIVEcFOURcNINEcONEcSEVENcSIXcTHREEcTWOcZERObDOUBLE DANDAbLETTER AAcBAAcBHAAcCAA",
  "cCHAAcDAAcDDAAcDDHAAcDHAAcEcGAAcGHAAcHAAcIcJAAcJHAAcKAAcKHAAcLAAcLHAAcMAAcNAAcNGAAcNNAAcNYAA",
  "cPAAcPHAAcRAAcSAAcTAAcTHAAcTTAAcTTHAAcUcVAAcWAAcYAAcYYAAbMAAYYAAbO MARKbQUESTION MARK",
  "bSECTION MARKbSIGN ANUSVARAcCANDRABINDUcVISARGAbVIRAMAbVOWEL SIGN AdAAdAIdAUdEdEIdIdIIdOdOIdU",
  "dUUaCHAM CONSONANT SIGN FINAL HeMeNGdLAdRAdWAdYAbDIGIT EIGHTcFIVEcFOURcNINEcONEcSEVENcSIX",
  "cTHREEcTWOcZERObLETTER AcAIcBAcBBAcBHAcCHAcCHHAcDAcDDAcDHAcEcFINAL CHdGdKdLdNdNGdPdRdSSdTdYcGA",
  "cGHAcHAcIcJAcJHAcKAcKHAcLAcMAcMUEcNAcNGAcNGUEcNHAcNHJAcNHUEcNUEcOcPAcPHAcPPAcRAcSAcSSAcTAcTHA",
  "cUcVAcYAbPUNCTUATION DANDAcDOUBLE DANDAcSPIRALcTRIPLE DANDAbVOWEL SIGN AAdAIdAUdEIdIdIIdOdOEdU",
  "dUEaCHARACTER TABULATIONcSETcWITH JUSTIFICATIONbTIEaCHART WITH DOWNWARDS TRENDcUPWARDS TREND",
  "eAND YEN SIGNaCHECK MARKaCHECKER BOARDcFILLaCHEERING MEGAPHONEaCHEESE WEDGEaCHEQUERED FLAG",
  "aCHEROKEE LETTER AcDAcDEcDIcDLAcDOcDUcDVcEcGAcGEcGIcGOcGUcGVcHAcHEcHIcHNAcHOcHUcHVcIcKAcLAcLE",
  "cLIcLOcLUcLVcMAcMEcMIcMOcMUcMVcNAcNAHcNEcNIcNOcNUcNVcOcQUAcQUEcQUIcQUOcQUUcQUVcScSAcSEcSIcSO",
  "cSUcSVcTAcTEcTIcTLAcTLEcTLIcTLOcTLUcTLVcTSAcTSEcTSIcTSOcTSUcTSVcUcVcWAcWEcWIcWOcWUcWVcYAcYEcYI",
  "cYOcYUcYVbSMALL LETTER AdDAdDEdDIdDLAdDOdDUdDVdEdGAdGEdGIdGOdGUdGVdHAdHEdHIdHNAdHOdHUdHVdIdKA",
  "dLAdLEdLIdLOdLUdLVdMAdMEdMIdMOdMUdMVdNAdNAHdNEdNIdNOdNUdNVdOdQUAdQUEdQUIdQUOdQUUdQUVdSdSAdSE",
  "dSIdSOdSUdSVdTAdTEdTIdTLAdTLEdTLIdTLOdTLUdTLVdTSAdTSEdTSIdTSOdTSUdTSVdUdVdWAdWEdWIdWOdWUdWVdYA",
  "dYEdYIdYOdYUdYVaCHERRIESaCHERRY BLOSSOMaCHESTNUTaCHI RHOaCHICKENaCHILDaCHILDREN CROSSING",
  "aCHIPMUNKaCHIRONaCHOCOLATE BARaCHOPSTICKSaCHORASMIAN LETTER ALEPHcAYINcBETHcCURLED WAWcDALETH",
  "cGIMELcHEcHETHcKAPHcLAMEDHcMEMcNUNcPEcRESHcSAMEKHcSHINcSMALL ALEPHcTAWcWAWcYODHcZAYIN",
  "bNUMBER FOURcONEdHUNDREDcTENcTHREEcTWENTYcTWOaCHRISTMAS TREEaCHURCHaCINEMA",
  "aCIRCLE DIVIDED BY HORIZONTAL BAR AND TOP HALF DIVIDED BY VERTICAL BAR",
  "bWITH ALL BUT UPPER LEFT QUADRANT BLACKcHORIZONTAL BARcLEFT HALF BLACKcLOWER HALF BLACK",
  "cRIGHT HALF BLACKcSMALL CIRCLE TO THE RIGHTcSUPERIMPOSED XcTWO HORIZONTAL STROKES TO THE RIGHT",
  "cUPPER HALF BLACKdRIGHT QUADRANT BLACKcVERTICAL FILLaCIRCLED ANTICLOCKWISE ARROW",
  "bANTICLOCKWISE-ROTATED DIVISION SIGNbASTERISK OPERATORbBOLD XbBULLETbC WITH OVERLAID BACKSLASH",
  "bCCbCDbCROSS FORMEEdWITH FOUR DOTSeTWO DOTScPOMMEEbCROSSING LANESbDASHbDIGIT EIGHTcFIVEcFOUR",
  "cNINEcONEcSEVENcSIXcTHREEcTWOcZERObDIVISION SIGNcSLASHbDOLLAR SIGN WITH OVERLAID BACKSLASH",
  "bDOT OPERATORbEQUALSbGREATER-THANbHANGUL CHIEUCHdAcCIEUCdAcHIEUHdAcIEUNGdAdUcKHIEUKHdAcKIYEOK",
  "dAcMIEUMdAcNIEUNdAcPHIEUPHdAcPIEUPdAcRIEULdAcSIOSdAcTHIEUTHdAcTIKEUTdA",
  "bHEAVY WHITE RIGHTWARDS ARROWbHORIZONTAL BAR WITH NOTCHbHUMAN FIGUREbIDEOGRAPH ACCEPT",
  "cADVANTAGEcALLIANCEcATTENTIONcCENTREcCONGRATULATIONcCOPYcCORRECTcEARTHcEIGHTcENTERPRISE",
  "cEXCELLENTcFEMALEcFINANCIALcFIREcFIVEcFOURcHAVEcHIGHcITEMcKINDERGARTENcKOTOcLABORcLEFTcLOW",
  "cMALEcMEDICINEcMETALcMOONcNAMEcNIGHTcNINEcONEcPRINTcQUESTIONcRELIGIONcRESOURCEcRESTcRIGHT",
  "cSCHOOLcSECRETcSEVENcSIXcSOCIETYcSPECIALcSTOCKcSTUDYcSUITABLEcSUNcSUPERVISEcTENcTHREEcTWO",
  "cWATERcWOODbINFORMATION SOURCEbITALIC LATIN CAPITAL LETTER CfRbKATAKANA AcEcHAcHEcHIcHOcHUcI",
  "cKAcKEcKIcKOcKUcMAcMEcMIcMOcMUcNAcNEcNIcNOcNUcOcRAcREcRIcROcRUcSAcSEcSIcSOcSUcTAcTEcTIcTOcTUcU",
  "cWAcWEcWIcWOcYAcYOcYUbKOREAN CHARACTER CHAMKOdJUEUIbLATIN CAPITAL LETTER AeBeCeDeEeFeGeHeIeJeK",
  "eLeMeNeOePeQeReSeTeUeVeWeXeYeZcSMALL LETTER AeBeCeDeEeFeGeHeIeJeKeLeMeNeOePeQeReSeTeUeVeWeXeY",
  "eZbLESS-THANbMINUSbMULTIPLICATION SIGN WITH CIRCUMFLEX ACCENTbNUMBER EIGHTEEN",
  "cEIGHTY ON BLACK SQUAREcELEVENcFIFTEENcFIFTYdON BLACK SQUAREcFORTYdEIGHTdFIVEdFOURdNINE",
  "dON BLACK SQUAREdONEdSEVENdSIXdTHREEdTWOcFOURTEENcNINETEENcSEVENTEENcSEVENTY ON BLACK SQUARE",
  "cSIXTEENcSIXTY ON BLACK SQUAREcTENdON BLACK SQUAREcTHIRTEENcTHIRTYdEIGHTdFIVEdFOURdNINE",
  "dON BLACK SQUAREdONEdSEVENdSIXdTHREEdTWOcTWELVEcTWENTYdEIGHTdFIVEdFOURdNINEdON BLACK SQUARE",
  "dONEdSEVENdSIXdTHREEdTWObOPEN CENTRE EIGHT POINTED STARbPARALLELbPERPENDICULARbPLUS",
  "bPOSTAL MARKbREVERSE SOLIDUSbRING OPERATORbSQUAREbTIMESbTRIANGLEcDOWNbVERTICAL BAR",
  "bWHITE BULLETcSTARbWZbXbZERO WITH SLASHaCIRCULATION FUNCTIONaCIRCUMFLEX ACCENTaCIRCUS TENT",
  "aCITYSCAPEbAT DUSKaCJK RADICAL BAMBOOcBLUEcBOLT OF CLOTHcBONEcBOXcBRUSH ONEdTWO",
  "cC-SIMPLIFIED BIRDdCARTdDRAGONdEATdEVENdFISHdFLYdFROGdGATEdGOLDdHORSEdLEAFdLONGdSALTdSEEdSHELL",
  "dSILKdSPEECHdTANNED LEATHERdTOOTHdTURTLEdWINDcCHOKEcCITYcCIVILIANcCLIFFcCLOTHEScCOWcDEATH",
  "cDIVINATIONcDOGcEAT ONEdTHREEdTWOcEWEcEYEcFIREcFOOTcGHOSTcGRASS ONEdTHREEdTWOcHANDcHEAD",
  "cHEART ONEdTWOcHORNcJ-SIMPLIFIED DRAGONdEVENdTOOTHdTURTLEcJADEcKNIFE ONEdTWOcLAME FOURdONE",
  "dTHREEdTWOcLONG ONEdTWOcMEATcMESHcMOONcMORTARcMOTHERcMOUND ONEdTWOcNET FOURdONEdTHREEdTWOcOLD",
  "cPAW ONEdTWOcPERSONcRAINcRAMcRAPcREPEATcSEALcSECOND ONEdTHREEdTWOcSHEEPcSILK",
  "cSIMPLIFIED HALF TREE TRUNKdHORNdWALKdWHEATdYELLOWcSMALL ONEdTWOcSNAKEcSNOUT ONEdTWO",
  "cSPIRIT ONEdTWOcSUNcTABLEcTHREADcTIGERcTURTLEcWALK ONEdTWOcWATER ONEdTWOcWEST ONEdTWO",
  "bSTROKE BXGcDcHcHGcHPcHPWGcHXWGcHZcHZGcHZTcHZWcHZWGcHZZcHZZPcHZZZcHZZZGcNcPcPDcPGcPZcQcScSGcSP",
  "cSTcSWcSWGcSWZcSZcSZWGcSZZcTcTNcWGcXGaCLAMSHELL MOBILE PHONEaCLAPPER BOARDaCLAPPING HANDS SIGN",
  "aCLASSICAL BUILDINGaCLEAR SCREEN SYMBOLaCLINKING BEER MUGSbGLASSESaCLIPBOARD",
  "aCLOCK FACE EIGHT OCLOCKcEIGHT-THIRTYcELEVEN OCLOCKcELEVEN-THIRTYcFIVE OCLOCKcFIVE-THIRTY",
  "cFOUR OCLOCKcFOUR-THIRTYcNINE OCLOCKcNINE-THIRTYcONE OCLOCKcONE-THIRTYcSEVEN OCLOCK",
  "cSEVEN-THIRTYcSIX OCLOCKcSIX-THIRTYcTEN OCLOCKcTEN-THIRTYcTHREE OCLOCKcTHREE-THIRTY",
  "cTWELVE OCLOCKcTWELVE-THIRTYcTWO OCLOCKcTWO-THIRTYaCLOCKWISE CLOSED CIRCLE ARROW",
  "bCONTOUR INTEGRALbDOWNWARDS AND UPWARDS OPEN CIRCLE ARROWSbGAPPED CIRCLE ARROWbINTEGRAL",
  "bOPEN CIRCLE ARROWbRIGHT AND LEFT SEMICIRCLE ARROWS",
  "bRIGHTWARDS AND LEFTWARDS OPEN CIRCLE ARROWShWITH CIRCLED ONE OVERLAYbTOP SEMICIRCLE ARROW",
  "bTRIANGLE-HEADED OPEN CIRCLE ARROWaCLOSE UPaCLOSED BOOKbINTERSECTION WITH SERIFSbLOCK WITH KEY",
  "bMAILBOX WITH LOWERED FLAGdRAISED FLAGbSUBSETcOR EQUAL TObSUPERSETcOR EQUAL TObUMBRELLA",
  "bUNION WITH SERIFSeAND SMASH PRODUCTaCLOUDbWITH LIGHTNINGcRAINcSNOWcTORNADOaCLOWN FACEaCOAT",
  "aCOCKROACHaCOCKTAIL GLASSaCOCONUTaCOFFINaCOINaCOLLISION SYMBOLaCOLONbEQUALSbSIGN",
  "aCOMBINING ACUTE ACCENTdBELOWcTONE MARKbACUTE-GRAVE-ACUTEbACUTE-MACRONbALMOST EQUAL TO ABOVE",
  "eBELOWbANNUITY SYMBOLbANTICLOCKWISE ARROW ABOVEcRING OVERLAYbASTERISK ABOVEcBELOWbBINDU BELOW",
  "bBREVEcBELOWbBREVE-MACRONbBRIDGE ABOVEcBELOWbCANDRABINDUbCARONcBELOWbCEDILLAbCIRCUMFLEX ACCENT",
  "dBELOWbCLOCKWISE ARROW ABOVEcRING OVERLAYbCOMMA ABOVEdRIGHTcBELOWbCONJOINING MACRONdBELOW",
  "bCYRILLIC DASIA PNEUMATAcHUNDRED MILLIONS SIGNdTHOUSANDS SIGNcKAVYKAcLETTER AdBEdBIG YUSdCHE",
  "dDEdDJERVdEFdELdEMdENdERdESdES-TEdFITAdGHEdHAdHARD SIGNdIdIEdIOTIFIED AeBIG YUSeEdKA",
  "dLITTLE YUSdMONOGRAPH UKdOdOMEGAdPEdSHAdSHCHAdSOFT SIGNdTEdTSEdUdUKRAINIAN IEdVEdYATdYERUdYI",
  "dYUdZEdZHEcMILLIONS SIGNcPALATALIZATIONcPAYEROKcPOKRYTIEcPSILI PNEUMATAcTEN MILLIONS SIGN",
  "cTHOUSAND MILLIONS SIGNcTITLOdLEFT HALFdRIGHT HALFcVZMETbDELETION MARKbDEVANAGARI DIGIT EIGHT",
  "dFIVEdFOURdNINEdONEdSEVENdSIXdTHREEdTWOdZEROcLETTER AdKAdNAdPAdRAdUdVIcSIGN AVAGRAHAbDIAERESIS",
  "cBELOWbDIAERESIS-RINGbDOT ABOVEdLEFTdRIGHTcBELOWdLEFTbDOTTED ACUTE ACCENTcGRAVE ACCENT",
  "bDOUBLE ACUTE ACCENTcBREVEdBELOWcCIRCUMFLEX ABOVEcGRAVE ACCENTcINVERTED BREVEeBELOWcLOW LINE",
  "cMACRONdBELOWcOPEN MARK BELOWcOVERLINEcPARENTHESES ABOVEcPLUS SIGN ABOVEeBELOW",
  "cRIGHTWARDS ARROW BELOWcRING BELOWcTILDEdLEFT HALFdRIGHT HALFcVERTICAL LINE ABOVEeBELOW",
  "dSTROKE OVERLAYbDOUBLED CIRCUMFLEX ACCENTbDOWN TACK BELOWbDOWNWARDS ARROWbENCLOSING CIRCLE",
  "dBACKSLASHcDIAMONDcKEYCAPcSCREENcSQUAREcUPWARD POINTING TRIANGLEbEQUALS SIGN BELOWbFERMATA",
  "bFOUR DOTS ABOVEbGLAGOLITIC LETTER AZUdBIG YUSdBUKYdCHRIVIdDJERVIdDOBROdFITAdFRITUdGLAGOLI",
  "dHERUdIdINITIAL IZHEdIOTATED BIG YUSeSMALL YUSdIZHEdKAKOdLJUDIJEdMYSLITEdNASHIdONUdPOKOJI",
  "dRITSIdSHAdSHTAdSLOVOdSMALL YUSdTSIdTVRIDOdUKUdVEDEdYATIdYERIdYERUdYESTUdYOdYUdZEMLJAdZHIVETE",
  "bGRANTHA DIGIT FIVEdFOURdONEdSIXdTHREEdTWOdZEROcLETTER AdKAdNAdPAdVIbGRAPHEME JOINER",
  "bGRAVE ACCENTdBELOWcTONE MARKbGRAVE-ACUTE-GRAVEbGRAVE-MACRONbGREEK DIALYTIKA TONOScKORONIS",
  "cMUSICAL PENTASEMEdTETRASEMEdTRISEMEcPERISPOMENIcYPOGEGRAMMENIbHOMOTHETIC ABOVEbHOOK ABOVE",
  "bHORNbINFINITYbINVERTED BREVEdBELOWcBRIDGE BELOWcDOUBLE ARCH ABOVEeBELOWbIS BELOW",
  "bKATAKANA-HIRAGANA SEMI-VOICED SOUND MARKcVOICED SOUND MARKbKAVYKA ABOVE LEFTdRIGHT",
  "bLATIN LETTER SMALL CAPITAL GfLfMfNfRcSMALL LETTER AfWITH DIAERESISeAEeALPHAeAOeAVeBeBETAeC",
  "fCEDILLAeDeEeESHeETHeFeFLATTENED OPEN A ABOVEeGeHeIeINSULAR DfGfRfTeKeL",
  "fWITH DOUBLE MIDDLE TILDEeLONG SeMeNeOfWITH DIAERESISgLIGHT CENTRALIZATION STROKEePeRfBELOW",
  "fROTUNDAeSeSCHWAeTeTURNED W BELOWeUfWITH DIAERESISgLIGHT CENTRALIZATION STROKEeVeWfBELOWeXeZ",
  "bLEFT ANGLE ABOVEdBELOWcARROW ABOVEdBELOWcARROWHEAD ABOVEdBELOWcHALF RING ABOVEeBELOW",
  "cHARPOON ABOVEcPARENTHESIS ABOVE LEFTdBELOW LEFTcRIGHT ARROW ABOVEeBELOWcTACK BELOW",
  "bLEFTWARDS ARROW OVERLAYcHARPOON WITH BARB DOWNWARDSbLIGATURE LEFT HALFeBELOWcRIGHT HALFeBELOW",
  "bLIGHT CENTRALIZATION STROKE BELOWbLONG DOUBLE SOLIDUS OVERLAYcSOLIDUS OVERLAYcSTROKE OVERLAY",
  "cVERTICAL LINE OVERLAYbLOW LINEbMACRONcBELOWcLEFT HALFeBELOWcRIGHT HALFeBELOWbMACRON-ACUTE",
  "bMACRON-BREVEbMACRON-GRAVEbMINUS SIGN BELOWbNOT TILDE ABOVEbNUMBER SIGN ABOVEbOGONEKcABOVE",
  "bOLD PERMIC LETTER ANeDOIeNENOEeSIIeZATAbOPEN MARK BELOWbOVERLINEbPALATALIZED HOOK BELOW",
  "bPARENTHESES ABOVEcBELOWcOVERLAYbPLUS SIGN ABOVEdBELOWbRETROFLEX HOOK BELOW",
  "bREVERSE SOLIDUS OVERLAYbREVERSED COMMA ABOVEbRIGHT ARROW ABOVEdBELOWcARROWHEAD ABOVE",
  "dAND DOWN ARROWHEAD BELOWeUP ARROWHEAD BELOWdBELOWcHALF RING ABOVEeBELOWcHARPOON ABOVE",
  "cPARENTHESIS ABOVE RIGHTdBELOW RIGHTcTACK BELOWbRIGHTWARDS HARPOON WITH BARB DOWNWARDS",
  "bRING ABOVEcBELOWcOVERLAYbSEAGULL BELOWbSHORT SOLIDUS OVERLAYcSTROKE OVERLAY",
  "cVERTICAL LINE OVERLAYbSNAKE BELOWbSQUARE BELOWcBRACKETS ABOVE",
  "bSTRONG CENTRALIZATION STROKE BELOWbSUSPENSION MARKbTHREE DOTS ABOVEbTILDEcBELOW",
  "cLEFT HALF BELOWcOVERLAYcRIGHT HALF BELOWbTRIPLE ACUTE ACCENTcDOTcUNDERDOTbTURNED COMMA ABOVE",
  "bUP TACK ABOVEdBELOWbUPWARDS ARROW BELOWbUR ABOVEbUS ABOVEbVERTICAL LINE ABOVEdBELOWcTILDE",
  "bWIDE BRIDGE ABOVEcINVERTED BRIDGE BELOWbWIGGLY LINE BELOWbX ABOVEcBELOWbX-X BELOW",
  "bZIGZAG ABOVEcBELOWaCOMETaCOMMAaCOMMERCIAL ATbMINUS SIGNaCOMPASSaCOMPLEMENTaCOMPOSITION SYMBOL",
  "aCOMPRESSIONaCONFETTI BALLaCONFOUNDED FACEaCONFUSED FACEaCONGRUENT WITH DOT ABOVE",
  "aCONICAL TAPERaCONJUNCTIONaCONSTRUCTION SIGNbWORKERaCONTAINS AS MEMBERcNORMAL SUBGROUP",
  "eOR EQUAL TObWITH LONG HORIZONTAL STROKEcOVERBARcVERTICAL BAR AT END OF HORIZONTAL STROKE",
  "aCONTINUOUS UNDERLINE SYMBOLaCONTOUR INTEGRALaCONTROL KNOBSbSEQUENCE INTRODUCER",
  "aCONVENIENCE STOREaCOOKED RICEaCOOKIEaCOOKINGaCOPTIC CAPITAL LETTER AKHMIMIC KHEIdALFA",
  "dBOHAIRIC KHEIdCROSSED SHEIdCRYPTOGRAMMIC EIEeGANGIAeNIeSHEIdDALDAdDEIdDIALECT-P ALEFeHORI",
  "eKAPAeNIdEIEdFEIdFIdGAMMAdGANGIAdHATEdHORIdIAUDAdKAPAdKHEIdKHIdKSIdL-SHAPED HAdLAULAdMIdNIdO",
  "dOLD COPTIC AINfDJAfESHfGANGIAfHAfHATfHEIfHORIfOOUfSHEIfSHIMAeNUBIAN NGIfNYIfSHIMAfWAUdOOUdPI",
  "dPSIdROdSAMPIdSHEIdSHIMAdSIMAdSOUdTAUdTHETHEdUAdVIDAdZATAbCOMBINING NI ABOVEcSPIRITUS ASPER",
  "dLENISbEPACT DIGIT EIGHTdFIVEdFOURdNINEdONEdSEVENdSIXdTHREEdTWOcNUMBER EIGHT HUNDREDdEIGHTY",
  "dFIFTYdFIVE HUNDREDdFORTYdFOUR HUNDREDdNINE HUNDREDdNINETYdONE HUNDREDdSEVEN HUNDREDdSEVENTY",
  "dSIX HUNDREDdSIXTYdTENdTHIRTYdTHREE HUNDREDdTWENTYdTWO HUNDREDcTHOUSANDS MARK",
  "bFRACTION ONE HALFbFULL STOPbMORPHOLOGICAL DIVIDERbOLD NUBIAN DIRECT QUESTION MARKdFULL STOP",
  "dINDIRECT QUESTION MARKdVERSE DIVIDERbSMALL LETTER AKHMIMIC KHEIdALFAdBOHAIRIC KHEI",
  "dCROSSED SHEIdCRYPTOGRAMMIC EIEeGANGIAeNIeSHEIdDALDAdDEIdDIALECT-P ALEFeHORIeKAPAeNIdEIEdFEI",
  "dFIdGAMMAdGANGIAdHATEdHORIdIAUDAdKAPAdKHEIdKHIdKSIdL-SHAPED HAdLAULAdMIdNIdOdOLD COPTIC AIN",
  "fDJAfESHfGANGIAfHAfHATfHEIfHORIfOOUfSHEIfSHIMAeNUBIAN NGIfNYIfSHIMAfWAUdOOUdPIdPSIdROdSAMPI",
  "dSHEIdSHIMAdSIMAdSOUdTAUdTHETHEdUAdVIDAdZATAbSYMBOL KAIcKHI ROcMI ROcPI ROcSHIMA SIMAcSTAUROS",
  "cTAU ROaCOPYLEFT SYMBOLaCOPYRIGHT SIGNaCORALaCORNISH VERSE DIVIDERaCORRESPONDS TO",
  "aCOUCH AND LAMPaCOUNTERBOREaCOUNTERSINKaCOUNTING ROD TENS DIGIT EIGHTeFIVEeFOUReNINEeONEeSEVEN",
  "eSIXeTHREEeTWOcUNIT DIGIT EIGHTeFIVEeFOUReNINEeONEeSEVENeSIXeTHREEeTWOaCOUPLE WITH HEARTaCOW",
  "bFACEaCRaCRABaCREDIT CARDaCRESCENT MOONaCRICKETbBAT AND BALLaCROCODILEaCROISSANTaCROSS MARK",
  "bOF JERUSALEMcLORRAINEbPATTY WITH LEFT CROSSBARdRIGHT CROSSBARbPOMMEEcWITH HALF-CIRCLE BELOW",
  "aCROSSED FLAGSbNEGATIVE SQUARED LATIN CAPITAL LETTER PbSWORDSaCROSSING LANESaCROWNaCRUTCH",
  "aCRUZEIRO SIGNaCRYING CAT FACEbFACEaCRYSTAL BALLaCSIaCUBE ROOTaCUCUMBER",
  "aCUNEIFORM NUMERIC SIGN EIGHT ASHeDISHeGESH2eSHAR2eUfVARIANT FORMeVARIANT FORM USSUgUSSU3",
  "dELAMITE FIFTYeFORTYeONE THIRDeTWO THIRDSdFIVE ASHfTENUeBAN2fVARIANT FORMeBURUeDISHeGESH2",
  "eGESHUeSHAR2eSHARUeSIXTHS DISHeUfVARIANT FORMdFOUR ASHfTENUeBAN2fVARIANT FORMeBURUeDISHeGESH2",
  "eGESHUeSHAR2eSHARUeUfVARIANT FORMeVARIANT FORM LIMMUhAhBgLIMMU4dNIGIDAESHdNIGIDAMINdNINE ASH",
  "eDISHeGESH2eSHAR2eUfVARIANT FORMeVARIANT FORM ILIMMUhAgILIMMU3gILIMMU4",
  "dOLD ASSYRIAN ONE QUARTERgSIXTHdONE BAN2eBURUeEIGHTH ASHeESHE3eGESH2eGESHUeHALF GUR",
  "eQUARTER ASHfGUReSHARUeTHIRD DISHfVARIANT FORM AdSEVEN ASHeDISHeGESH2eSHAR2eUfVARIANT FORM",
  "eVARIANT FORM IMIN AhBgIMIN3dSHAR2 TIMES GAL PLUS DISHhMINdSIX ASHfTENUeDISHeGESH2eSHAR2eU",
  "fVARIANT FORMeVARIANT FORM ASH9dTHREE ASHfTENUeBAN2eBURUfVARIANT FORMeDISHeGESH2eGESHUeSHAR2",
  "fVARIANT FORMeSHARUfVARIANT FORMeVARIANT FORM ESH16gESH21dTWO ASHfTENUeBAN2eBURUeESHE3eGESH2",
  "eGESHUeSHAR2eSHARUeTHIRDS DISHfVARIANT FORM AbPUNCTUATION SIGN DIAGONAL COLONeQUADCOLON",
  "eTRICOLONdOLD ASSYRIAN WORD DIVIDERdVERTICAL COLONbSIGN AdTIMES AeBADeGAN2 TENUeHAeIGI",
  "eLAGAR GUNUeMUSHeSAGcA2cABdGUNUdTIMES ASH2eDUN3 GUNUeGALeGAN2 TENUeHAeIGI GUNUeIMINeLAGABeNUN",
  "fTENUeSHESHeSHU2eU PLUS U PLUS UcAB2dTIMES AeBALAGeGAN2 TENUeME PLUS ENeSHA3eTAK4cAD",
  "dTIMES ESH2cAKdTIMES ERIN2eSHITA PLUS GISHcALdTIMES ALeDIM2eGISHeHAeKAD3eKIeSHEeUSHcALANcALEPH",
  "cAMARdTIMES KUGeSHEcANdOVER ANdPLUS NAGA OPPOSING AN PLUS NAGAfSQUAREDdTHREE TIMEScANSHEcAPIN",
  "cARADdTIMES KURcARKABcASAL2cASHdKABA TENUdOVER ASH OVER ASHhCROSSING ASH OVER ASH OVER ASH",
  "fTUG2 OVER TUG2 TUG2 OVER TUG2 PAPdZIDA TENUcASH2cASHGABcBAcBADdTIMES DISH TENUcBAG3cBAHAR2",
  "dTIMES AB2eNIeZAcBALdOVER BALcBALAGcBARcBARA2cBIdTIMES AeGAReIGI GUNUcBUdCROSSING BU",
  "dOVER BU ABfTIMES NA2fUNcBULUGdOVER BULUGcBURcBUR2cDAdTIMES TAK4cDAGdKISIM5 TIMES A PLUS MASH",
  "fAMARfBALAGfBIfGAgPLUS MASHfGIfGIR2fGUDfHAfIRgPLUS LUfKAKfLAfLUgPLUS MASH2fLUMfNEfPAP PLUS PAP",
  "fSIfTAK4fU2 PLUS GIR2hMASHfUSHdTIMES KURcDAG3cDAMcDARcDARA3cDARA4cDIcDIBcDIMdTIMES IGIeSHE",
  "eU U UcDIM2dTIMES UDcDINdKASKAL U GUNU DISHcDISHdPLUS SHUcDUdGUNUdOVER DUdSHESHIGcDUB",
  "dTIMES ESH2eSHEcDUB2cDUGdTIMES ANSHEeASHfAT LEFTeDINeDUNeERIN2eGAeGIeGIR2 GUNUeGISHeHAeHI",
  "eIGI GUNUeKASKALeKUReKUSHU2fPLUS KASKALeLAK-020eLAMfTIMES KUReLUH PLUS GISHeMASHeMESeMIeNIePI",
  "eSHEeSI GUNUcDUGUDcDUHcDUNcDUN3dGUNUeGUNUcDUN4cDUR2cEdOVER E NUN OVER NUNdTIMES PAPcE2",
  "dTIMES A PLUS HA PLUS DAeGAReKUReMIePAPeSALeSHEeUcEDINcEGIRcELcENdCROSSING ENdOPPOSING EN",
  "dSQUAREDdTIMES GAN2fTENUeMEcERENcERIN2dXcESH2dCROSSING ESH2cEZENdSHESHIG TIMES ASHfHIfIGI GUNU",
  "fLAfLALfMEfMESfSUdTIMES AfPLUS LALhTIMES LALeANeBADeDUN3 GUNUgGUNUeGUDeHAfGUNUeIGI GUNUeKASKAL",
  "fSQUAREDeKU3eLAeLAL TIMES LALeLIeLUeSHEeSUeU2eUDcGAdGUNUcGA2dOVER GA2dTIMES A PLUS DA PLUS HA",
  "gHAgIGIeAB2 TENU PLUS TABeANfPLUS KAK PLUS AeASHeASH2fPLUS GALeBADeBAHAR2eBAR PLUS RAeBUR",
  "fPLUS RAeDAeDIeDIM GUNUfTIMES SHEeDUBeDUG TIMES IGI GUNUgKASKALeELfPLUS LAeENfTIMES GAN2 TENU",
  "eERENeGAeGAN2 TENUeGARfPLUS DIgNEeGIeGI4fPLUS AeGIR2 PLUS SUeHA PLUS AgLU PLUS ESH2eHAL",
  "fPLUS LAeHI PLUS LIeHUB2eIGI GUNUeISH PLUS HU PLUS ASHeKAKeKASKALeKIDfPLUS LALeKU3 PLUS AN",
  "eKUSHU2 PLUS KASKALeLAeLAMfTIMES KUReLUHeME PLUS ENeMIeMUSHeNEfPLUS E2gGIeNUNfOVER NUNePAeSAL",
  "eSAReSHEfPLUS TUReSHIDeSHIMeSUMeTAK4eUeUDfPLUS DUeZIZ2cGABAdCROSSING GABA",
  "dROTATED NINETY DEGREEScGADdOVER GAD GAR OVER GARcGALdGAD OVER GAD GAR OVER GARcGALAMcGAMcGAN",
  "cGAN2dCROSSING GAN2dOVER GAN2dTENUcGARcGAR3cGASHANcGE22cGESHTINdTIMES KUReUcGIdCROSSING GI",
  "dTIMES EeUcGI4dCROSSING GI4dOVER GI4cGIDIMcGIGcGIR2dGUNUcGIR3dTIMES A PLUS IGIeGAN2 TENUeIGI",
  "eLU PLUS IGIePAcGISALcGISHdCROSSING GISHdTENUdTIMES BADeGISH CROSSING GISHeTAK4cGUdCROSSING GU",
  "cGU2dGUNUdTIMES IGI GUNUeKAKfTIMES IGI GUNUeNUNeSAL PLUS TUG2cGUDdOVER GUD LUGAL",
  "dPLUS GISH TIMES TAK4dTIMES A PLUS KUReKURcGULcGUMdTIMES SHEcGURcGUR7cGURUNcGURUSHcHAdGUNU",
  "dTENUeGUNUcHALcHIdTIMES ASHfOVER HI TIMES ASHeASH2eBADeDISHeGADeKINeNUNeSHEeUcHUcHUB2dTIMES AN",
  "eHALeKASKALeLISHeUDcHUL2cHUSHcIdAcIBcIDIMdOVER IDIM BURfSQUAREDcIGcIGIdDIBdGUNU",
  "dOVER IGI SHIR OVER SHIR UD OVER UDdRIcILdTIMES GAN2 TENUcIL2cIMdCROSSING IMdOPPOSING IM",
  "dSQUAREDdTIMES TAK4cIMINcINcIRcISHcKAdTIMES AeADfPLUS KU3eANSHEeASH2eASH3eBADeBALAGeBAReBIeBU",
  "eERIN2eESH2eGAeGALeGAN2 TENUeGARfPLUS SHA3 PLUS AeGIeGIR2eGISHfCROSSING GISHfPLUS SAReGUeGUD",
  "eGUR7eHI TIMES ASH2eIGIeIMeKAeKAKeKIeKIDeLIeLUeLUMeMEfPLUS DUgGIgTEeMIfPLUS NUNUZeNEeNUNePAePI",
  "eRUeSAeSAReSHAeSHEeSHIDeSHUeSHULeSIGeSUHUReTAReTUeUfU UeU2eUDeUMUM TIMES PAeUReUR2eUSHeZIcKA2",
  "dCROSSING KA2cKABcKAD2cKAD3cKAD4cKAD5dOVER KAD5cKAKdTIMES IGI GUNUcKALdCROSSING KALdTIMES BAD",
  "cKAM2cKAM4cKAP ELAMITEcKASKALdLAGAB TIMES U OVER LAGAB TIMES U",
  "dOVER KASKAL LAGAB TIMES U OVER LAGAB TIMES UcKESH2cKIdTIMES BADeUeUDcKIDcKINcKISALcKISH",
  "cKISIM5dOVER KISIM5cKUdOVER HI TIMES ASH2 KU OVER HI TIMES ASH2cKU3cKU4dVARIANT FORMcKU7cKUL",
  "dGUNUcKUNcKURdOPPOSING KURcKUSHU2cKWU318cLAcLAGABdSQUAREDdTIMES AfPLUS DA PLUS HAgGARgLALeAL",
  "eANeASH ZIDA TENUeBADeBIeDAReENeGAeGAReGIeGUDfPLUS GUDeHAeHALeHI TIMES NUNeIGI GUNUeIMfPLUS HA",
  "gLUeKIeKINeKU3eKULfPLUS HI PLUS AeLAGABeLISHeLUeLULeMEfPLUS ENeMUSHeNEeSHE PLUS SUM",
  "eSHITA PLUS GISH PLUS ERIN2hTENUeSHU2fPLUS SHU2eSUMeTAGeTAK4eTE PLUS A PLUS SU PLUS NAeU",
  "fPLUS AgU PLUS UeU2 PLUS ASHeUDeUSHeZU OVER ZUcLAGARdGUNUeOVER LAGAR GUNU SHEdTIMES SHE",
  "fPLUS SUMcLAHSHUcLAK-003cLAK-021cLAK-025cLAK-030cLAK-050cLAK-051cLAK-062",
  "cLAK-079 OVER LAK-079 GUNUcLAK-080cLAK-081 OVER LAK-081cLAK-092cLAK-130cLAK-142cLAK-210",
  "cLAK-219cLAK-220cLAK-225cLAK-228cLAK-238cLAK-265cLAK-266cLAK-343cLAK-347cLAK-348cLAK-383",
  "cLAK-384cLAK-390cLAK-441cLAK-449dTIMES GUeIGIePAP PLUS LU3gPAP PLUS LU3eU2 PLUS BAcLAK-450",
  "cLAK-457cLAK-470cLAK-483cLAK-490cLAK-492cLAK-493cLAK-495cLAK-550cLAK-608cLAK-617dTIMES ASHeBAD",
  "eDUN3 GUNU GUNUeKU3eLAeTAReTEeU2eUDeURUDAcLAK-636cLAK-648dTIMES DUBeGAeIGIfGUNUeNI",
  "ePAP PLUS PAP PLUS LU3eSHESH PLUS KIeUDeURUDAcLAK-724cLAK-749cLALdTIMES LALcLAMdTIMES KUR",
  "fPLUS RUcLIcLILcLIMMU2cLISHcLUdTIMES BADcLU2dCROSSING LU2dGUNU TIMES ASHdOPPOSING LU2dSHESHIG",
  "eTIMES BADdSQUAREDdTENUdTIMES ALeBADeDISHeESH2fPLUS LALfTENUeGAN2 TENUeHALeHI TIMES BADeIM",
  "eKAD2eKAD3fPLUS ASHeKIeLA PLUS ASHeLAGABeME PLUS ENeNEeNUePAPfPLUS PAP PLUS LU3eSHU",
  "eSI PLUS ASHeSIK2 PLUS BUeTAK4eTUG2cLU3cLUGALdOPPOSING LUGALdOVER LUGALdSHESHIGcLUHcLULcLUM",
  "dOVER LUMfGAR OVER GARcMAdGUNUdTIMES TAK4cMA2cMAHcMARcMASHcMASH2cMEcMEScMESHcMIdPLUS ZA7cMIN",
  "cMUdOVER MUcMUGdGUNUcMUNSUBcMURGU2cMUSHdCROSSING MUSHdOVER MUSHfTIMES A PLUS NAgGAgKAKdTIMES A",
  "eKUReZAcMUSH3dGUNUdTIMES AfPLUS DIeDIeZAcNAcNA2cNA4cNAGAdINVERTEDdOPPOSING NAGAdTIMES SHU TENU",
  "cNAGARcNAMdNUTILLUcNAM2cNEdSHESHIGdTIMES AeUDcNIdTIMES EcNI2cNIMdTIMES GAN2 TENU",
  "eGAR PLUS GAN2 TENUcNINcNIN9cNINDA2dTIMES ANeASHfPLUS ASHeBALeDIM GUNUeGIeGISHeGUDeGULeHI",
  "eKESH2eLAK-050eMASHeME PLUS GAN2 TENUeNEeNUNePAP PLUS PAPeSHEfPLUS A ANgASHhPLUS ASHeUfPLUS U",
  "eU2 PLUS ASHeURUDAeUSHcNISAGcNUcNU11dOVER NU11 BUR OVER BURdROTATED NINETY DEGREESdTENUcNUN",
  "dCROSSING NUNfLAGAR OVER LAGARdLAGAR TIMES GARfMASHfSALgOVER NUN LAGAR TIMES SALfUSHdOVER NUN",
  "dTENUcNUNUZdAB2 TIMES ASHGABfBIfDUGfGUDfIGI GUNUfKAD3fLAfNEfSILA3fU2dKISIM5 TIMES BIgUcPAcPAD",
  "cPANcPAPcPESH2dASTERISKcPIdCROSSING PIdTIMES AeABeBIeBUeEeIeIBeUeU2cPIR2cPIRIGdOPPOSING PIRIG",
  "dTIMES KALeUDeZAcRAcRABcRIcRUcSAcSAGdGUNUeTIMES HAdNUTILLUdOVER SAGdTIMES AeDUeDUBeENeHA",
  "eIGI GUNUeKAKeKUReLUMeMIeNUNeSALeSHE AT LEFTeSHIDeTABeTAK4eU2eUBeUMeUReUSHcSAL",
  "dLAGAB TIMES ASH2cSANGA2cSARcSHAcSHA3dTIMES AeBADeGISHeNEeSHU2eTUReUfPLUS AcSHA6dTENUcSHAB6",
  "cSHAR2cSHEdHUdOVER SHEfGAD OVER GAD GAR OVER GARfTAB OVER TAB GAR OVER GARdPLUS HUB2eNAM2eSAR",
  "cSHEG9cSHENcSHESHcSHESH2cSHESHLAMcSHIDdTIMES AeIMcSHIMdTIMES AeBALeBULUGeDINeGAReIGIfGUNU",
  "eKUSHU2eLULeMUGeSALcSHINIGcSHIRdOVER SHIR BUR OVER BURdTENUcSHITAcSHUdOVER INVERTED SHUcSHU2",
  "dPLUS DUG TIMES NIeE2 TIMES ANcSHUBURcSIdGUNUdTIMES TAK4cSIGcSIG4dOVER SIG4 SHU2cSIK2cSILA3cSU",
  "dOVER SUcSUDcSUD2cSUHURcSUMcSUMASHcSURcSUR9cTAdASTERISKdGUNUdTIMES HIeMIcTAB",
  "dOVER TAB NI OVER NI DISH OVER DISHdSQUAREDcTAGdTIMES BIeGUDeSHEeSHUeTUG2eUDcTAK4dPLUS SAGcTAR",
  "cTEdGUNUcTIdTENUcTI2cTILcTIRdOVER TIRfGAD OVER GAD GAR OVER GARdTIMES TAK4cTUcTUG2cTUKcTUM",
  "dTIMES GAN2 TENUeTHREE DISHcTURdOVER TUR ZA OVER ZAcUdGUDdOVER U PA OVER PA GAR OVER GAR",
  "fSUR OVER SURfU REVERSED OVER U REVERSEDdUeUcU2cUBcUDdGUNUdKUSHU2dSHESHIGeTIMES BADdTIMES BAD",
  "eMIeU PLUS U PLUS UjGUNUcUDUGcUMdTIMES LAGABeMEfPLUS DAeSHA3eUcUMBINcUMUMdTIMES KASKALePAcUN",
  "dGUNUcURdCROSSING URdSHESHIGcUR2dINVERTEDdTIMES A PLUS HAgNAeALeHAeNUNeU2fPLUS ASHgBIeUDcUR4",
  "cURIcURI3cURUdTIMES AeASHGABeBAReDARA3eDUNeGAeGALeGAN2 TENUeGAReGUeHAeIGIeIMeISHeKIeLAK-668",
  "eLU3eLUMeMINePAeSHEeSIG4eTUeU PLUS GUDeUDeURUDAcURUDAdTIMES UcUSHdTIMES AeKUeKUReTAK4cUSH2",
  "cUSHUMXcUSHXcUTUKIcUZ3dTIMES KASKALcUZUcZAdSQUARED TIMES KURdTENUcZA7cZAGcZAMXcZE2cZIdOVER ZI",
  "cZI3cZIBdKABA TENUcZIGcZIZ2cZUdOVER ZU PLUS SARcZU5dTIMES AeTHREE DISH TENUcZUBURcZUM",
  "aCUP ON BLACK SQUAREbWITH STRAWaCUPCAKEaCUPIDOaCURLING STONEaCURLY BRACKET EXTENSION",
  "bLOGICAL ANDcORbLOOPaCURRENCY EXCHANGEbSIGNaCURRY AND RICEaCURVED STEM PARAGRAPH SIGN ORNAMENT",
  "aCUSTARDaCUSTOMSaCUT OF MEATaCYCLONEaCYLINDRICITYaCYPRIOT SYLLABLE AcEcIcJAcJOcKAcKEcKIcKOcKU",
  "cLAcLEcLIcLOcLUcMAcMEcMIcMOcMUcNAcNEcNIcNOcNUcOcPAcPEcPIcPOcPUcRAcREcRIcROcRUcSAcSEcSIcSOcSU",
  "cTAcTEcTIcTOcTUcUcWAcWEcWIcWOcXAcXEcZAcZOaCYPRO-MINOAN SIGN CM001cCM002cCM004cCM005cCM006",
  "cCM007cCM008cCM009cCM010cCM011cCM012cCM012BcCM013cCM015cCM017cCM019cCM021cCM023cCM024cCM025",
  "cCM026cCM027cCM028cCM029cCM030cCM033cCM034cCM035cCM036cCM037cCM038cCM039cCM040cCM041cCM044",
  "cCM046cCM047cCM049cCM050cCM051cCM052cCM053cCM054cCM055cCM056cCM058cCM059cCM060cCM061cCM062",
  "cCM063cCM064cCM066cCM067cCM068cCM069cCM070cCM071cCM072cCM073cCM074cCM075cCM075BcCM076cCM078",
  "cCM079cCM080cCM081cCM082cCM083cCM084cCM085cCM086cCM087cCM088cCM089cCM090cCM091cCM092cCM094",
  "cCM095cCM096cCM097cCM098cCM099cCM100cCM101cCM102cCM103cCM104cCM105cCM107cCM108cCM109cCM110",
  "cCM112cCM114cCM301cCM302aCYRILLIC CAPITAL LETTER AeWITH BREVEfDIAERESISdABKHASIAN CHE",
  "fWITH DESCENDEReDZEeHAdALEUT KAdBARRED OfWITH DIAERESISdBASHKIR KAdBEdBIG YUSdBINOCULAR O",
  "dBLENDED YUSdBROAD OMEGAdBYELORUSSIAN-UKRAINIAN IdCCHEdCHEeWITH DESCENDERfDIAERESIS",
  "fVERTICAL STROKEdCLOSED LITTLE YUSdCROSSED OdDCHEdDEdDJEdDJERVdDOUBLE MONOCULAR OeOdDWEdDZE",
  "dDZELOdDZHEdDZWEdDZZEdDZZHEdEeWITH DIAERESISdEFdELeWITH DESCENDERfHOOKfMIDDLE HOOKfTAILdEM",
  "eWITH TAILdENeWITH DESCENDERfHOOKfLEFT HOOKfMIDDLE HOOKfTAILdEReWITH TICKdESeWITH DESCENDER",
  "dFITAdGHEeWITH DESCENDERfMIDDLE HOOKfSTROKEgAND HOOKfUPTURNdGJEdHAeWITH DESCENDERfHOOKfSTROKE",
  "dHARD SIGNdHWEdIeWITH DIAERESISfGRAVEfMACRONdIEeWITH BREVEfGRAVEdIOdIOTAdIOTIFIED AeBIG YUS",
  "eCLOSED LITTLE YUSeEeLITTLE YUSeYATdIZHITSAeWITH DOUBLE GRAVE ACCENTdJEdKAeWITH DESCENDERfHOOK",
  "fSTROKEfVERTICAL STROKEdKHAKASSIAN CHEdKJEdKOMI DEeDJEeDZJEeLJEeNJEeSJEeTJEeZJEdKOPPAdKSIdLHA",
  "dLITTLE YUSdLJEdMONOCULAR OdMONOGRAPH UKdNEUTRAL YERdNJEdOeWITH DIAERESISdOMEGAeWITH TITLOdOT",
  "dPEeWITH DESCENDERfMIDDLE HOOKdPSIdQAdREVERSED DZEeTSEeYUeZEdRHAdROUND OMEGAdSCHWA",
  "eWITH DIAERESISdSEMISOFT SIGNdSHAdSHCHAdSHHAeWITH DESCENDERdSHORT IfWITH TAILeUdSHWEdSOFT DE",
  "eELeEMeSIGNdSTRAIGHT UfWITH STROKEdTCHEdTEeWITH DESCENDERfMIDDLE HOOKdTSEdTSHEdTSSEdTSWEdTWEdU",
  "eWITH DIAERESISfDOUBLE ACUTEfMACRONdUKdUKRAINIAN IEdVEdWEdYAdYAEdYATdYERUeWITH BACK YER",
  "fDIAERESISdYIdYNdYUdZEeWITH DESCENDERfDIAERESISdZEMLYAdZHEeWITH BREVEfDESCENDERfDIAERESISdZHWE",
  "cLIGATURE A IEdEN GHEdTE TSEbKAVYKAbLETTER MULTIOCULAR OcPALOCHKAcSMALL CAPITAL ELbPAYEROK",
  "bSMALL LETTER AeWITH BREVEfDIAERESISdABKHASIAN CHEfWITH DESCENDEReDZEeHAdALEUT KAdBARRED O",
  "fWITH DIAERESISdBASHKIR KAdBEdBIG YUSdBINOCULAR OdBLENDED YUSdBROAD OMEGA",
  "dBYELORUSSIAN-UKRAINIAN IdCCHEdCHEeWITH DESCENDERfDIAERESISfVERTICAL STROKEdCLOSED LITTLE YUS",
  "dCROSSED OdDCHEdDEdDJEdDJERVdDOUBLE MONOCULAR OeOdDWEdDZEdDZELOdDZHEdDZWEdDZZEdDZZHEdE",
  "eWITH DIAERESISdEFdELeWITH DESCENDERfHOOKfMIDDLE HOOKfTAILdEMeWITH TAILdENeWITH DESCENDERfHOOK",
  "fLEFT HOOKfMIDDLE HOOKfTAILdEReWITH TICKdESeWITH DESCENDERdFITAdGHEeWITH DESCENDERfMIDDLE HOOK",
  "fSTROKEgAND HOOKfUPTURNdGJEdHAeWITH DESCENDERfHOOKfSTROKEdHARD SIGNdHWEdIeWITH DIAERESISfGRAVE",
  "fMACRONdIEeWITH BREVEfGRAVEdIOdIOTAdIOTIFIED AeBIG YUSeCLOSED LITTLE YUSeEeLITTLE YUSeYAT",
  "dIZHITSAeWITH DOUBLE GRAVE ACCENTdJEdKAeWITH DESCENDERfHOOKfSTROKEfVERTICAL STROKE",
  "dKHAKASSIAN CHEdKJEdKOMI DEeDJEeDZJEeLJEeNJEeSJEeTJEeZJEdKOPPAdKSIdLHAdLITTLE YUSdLJE",
  "dLONG-LEGGED DEdMONOCULAR OdMONOGRAPH UKdNARROW OdNEUTRAL YERdNJEdOeWITH DIAERESISdOMEGA",
  "eWITH TITLOdOTdPALOCHKAdPEeWITH DESCENDERfMIDDLE HOOKdPSIdQAdREVERSED DZEeTSEeYUeZEdRHA",
  "dROUND OMEGAdROUNDED VEdSCHWAeWITH DIAERESISdSEMISOFT SIGNdSHAdSHCHAdSHHAeWITH DESCENDER",
  "dSHORT IfWITH TAILeUdSHWEdSOFT DEeELeEMeSIGNdSTRAIGHT UfWITH STROKEdTALL HARD SIGNeTEeYATdTCHE",
  "dTEeWITH DESCENDERfMIDDLE HOOKdTHREE-LEGGED TEdTSEdTSHEdTSSEdTSWEdTWEdUeWITH DIAERESIS",
  "fDOUBLE ACUTEfMACRONdUKdUKRAINIAN IEdUNBLENDED UKdVEdWEdWIDE ESdYAdYAEdYATdYERUeWITH BACK YER",
  "fDIAERESISdYIdYNdYUdZEeWITH DESCENDERfDIAERESISdZEMLYAdZHEeWITH BREVEfDESCENDERfDIAERESISdZHWE",
  "cLIGATURE A IEdEN GHEdTE TSEbTHOUSANDS SIGN"]

end ResourceSymbols.Text.CharacterName

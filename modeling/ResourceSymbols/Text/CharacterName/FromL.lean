/-!
# Names of characters from L to R

A small letter says how many words a name shares with the one before it, none for the
letter a; the words after the letter follow those.
-/

namespace ResourceSymbols.Text.CharacterName

/-- The names from L to R, in the order of their words. -/
def namesFromL : List String := [
  "aL B BAR SYMBOLaLAB COATaLABELaLACROSSE STICK AND BALLaLADDERaLADY BEETLEaLANGUAGE TAG",
  "aLAO CANCELLATION MARKbDIGIT EIGHTcFIVEcFOURcNINEcONEcSEVENcSIXcTHREEcTWOcZERObELLIPSISbHO MO",
  "cNObKO LAbLETTER BOcCOcDOcFO FAYdFONdSUNGdTAMcHO SUNGdTAMcKHMU GOdNYOcKHO SUNGdTAMcKOcLOdLING",
  "dLOOTcMOcNGOcNOcNYOcOcPALI BHAdCHAdDDAdDDHAdDHAdGHAdJHAdLLAdNNAdNYAdTTAdTTHAcPHO SUNGdTAMcPO",
  "cROcSANSKRIT SHAdSSAcSO SUNGdTAMcTHO SUNGdTAMcTOcWOcYObNIGGAHITAbSEMIVOWEL SIGN LOdNYO",
  "bSIGN PALI VIRAMAbTONE MAI CATAWAdEKdTHOdTIbVOWEL SIGN AdAAdAIdAMdAYdEdEIdIdIIdMAI KANeKONdOdU",
  "dUUdYdYYaLARGE BLUE CIRCLEcDIAMONDcSQUAREbBROWN CIRCLEcSQUAREbCIRCLEbDOWN TACKbGREEN CIRCLE",
  "cSQUAREbLEFT TRIANGLE OPERATORbONE DOT OVER TWO DOTS PUNCTUATION",
  "cRING OVER TWO RINGS PUNCTUATIONbORANGE CIRCLEcDIAMONDcSQUAREbPURPLE CIRCLEcSQUAREbRED CIRCLE",
  "cSQUAREbTRIPLE VERTICAL BAR OPERATORbTWO DOTS OVER ONE DOT PUNCTUATION",
  "cRINGS OVER ONE RING PUNCTUATIONbUP TACKbYELLOW CIRCLEcSQUAREaLARGER THANcOR EQUAL TO",
  "aLARI SIGNaLAST QUARTER MOONdSYMBOLdWITH FACEaLATIN CAPITAL LETTER AeWITH ACUTEfBREVE",
  "gAND ACUTEhDOT BELOWhGRAVEhHOOK ABOVEhTILDEfCARONfCIRCUMFLEXgAND ACUTEhDOT BELOWhGRAVE",
  "hHOOK ABOVEhTILDEfDIAERESISgAND MACRONfDOT ABOVEhAND MACRONgBELOWfDOUBLE GRAVEfGRAVE",
  "fHOOK ABOVEfINVERTED BREVEfMACRONfOGONEKfRING ABOVEhAND ACUTEgBELOWfSTROKEfTILDEdAAdAE",
  "eWITH ACUTEfMACRONdAFRICAN DdALPHAdANGLICANA WdAOdAUdAVeWITH HORIZONTAL BARdAYdB",
  "eWITH DOT ABOVEgBELOWfFLOURISHfHOOKfLINE BELOWfSTROKEfTOPBARdBETAdBROKEN LdCeWITH ACUTEfBAR",
  "fCARONfCEDILLAgAND ACUTEfCIRCUMFLEXfDOT ABOVEfHOOKfPALATAL HOOKfSTROKEdCHIdCLOSED INSULAR G",
  "dCONdCUATRILLOeWITH COMMAdDeWITH CARONfCEDILLAfCIRCUMFLEX BELOWfDOT ABOVEgBELOWfHOOK",
  "fLINE BELOWfSHORT STROKE OVERLAYfSMALL LETTER ZiWITH CARONfSTROKEfTOPBARdDZeWITH CARONdE",
  "eWITH ACUTEfBREVEfCARONfCEDILLAgAND BREVEfCIRCUMFLEXgAND ACUTEhDOT BELOWhGRAVEhHOOK ABOVE",
  "hTILDEgBELOWfDIAERESISfDOT ABOVEgBELOWfDOUBLE GRAVEfGRAVEfHOOK ABOVEfINVERTED BREVEfMACRON",
  "gAND ACUTEhGRAVEfOGONEKfSTROKEfTILDEgBELOWdEGYPTOLOGICAL AINeALEFdENGdESHdETdETHdEZHeREVERSED",
  "eWITH CARONdFeWITH DOT ABOVEfHOOKfSTROKEdGeWITH ACUTEfBREVEfCARONfCEDILLAfCIRCUMFLEXfDOT ABOVE",
  "fHOOKfMACRONfOBLIQUE STROKEfSTROKEdGAMMAdGHAdGLOTTAL AeIeSTOPeUdHeWITH BREVE BELOWfCARON",
  "fCEDILLAfCIRCUMFLEXfDESCENDERfDIAERESISfDOT ABOVEgBELOWfHOOKfSTROKEdHALF HdHENGdHWAIRdI",
  "eWITH ACUTEfBREVEfCARONfCIRCUMFLEXfDIAERESISgAND ACUTEfDOT ABOVEgBELOWfDOUBLE GRAVEfGRAVE",
  "fHOOK ABOVEfINVERTED BREVEfMACRONfOGONEKfSTROKEfTILDEgBELOWdINSULAR DeFeGeReSeTdIOTAdISdJ",
  "eWITH CIRCUMFLEXfCROSSED-TAILfSTROKEdKeWITH ACUTEfCARONfCEDILLAfDESCENDERfDIAGONAL STROKE",
  "fDOT BELOWfHOOKfLINE BELOWfOBLIQUE STROKEfSTROKEgAND DIAGONAL STROKEdLeWITH ACUTEfBARfBELT",
  "fCARONfCEDILLAfCIRCUMFLEX BELOWfDOT BELOWhAND MACRONfDOUBLE BARfHIGH STROKEfLINE BELOW",
  "fMIDDLE DOTgTILDEfSMALL LETTER JfSTROKEdLJdMeWITH ACUTEfDOT ABOVEgBELOWfHOOKdMIDDLE SCOTS S",
  "dMIDDLE-WELSH LLeVdNeWITH ACUTEfCARONfCEDILLAfCIRCUMFLEX BELOWfDESCENDERfDOT ABOVEgBELOWfGRAVE",
  "fLEFT HOOKfLINE BELOWfLONG RIGHT LEGfOBLIQUE STROKEfSMALL LETTER JfTILDEdNJdOeWITH ACUTEfBREVE",
  "fCARONfCIRCUMFLEXgAND ACUTEhDOT BELOWhGRAVEhHOOK ABOVEhTILDEfDIAERESISgAND MACRONfDOT ABOVE",
  "hAND MACRONgBELOWfDOUBLE ACUTEgGRAVEfGRAVEfHOOK ABOVEfHORNgAND ACUTEhDOT BELOWhGRAVE",
  "hHOOK ABOVEhTILDEfINVERTED BREVEfLONG STROKE OVERLAYfLOOPfMACRONgAND ACUTEhGRAVEfMIDDLE TILDE",
  "fOGONEKgAND MACRONfSTROKEgAND ACUTEfTILDEgAND ACUTEhDIAERESIShMACRONdOIdOLD POLISH OdOMEGAdOO",
  "dOPEN EeOdOUdPeWITH ACUTEfDOT ABOVEfFLOURISHfHOOKfSQUIRREL TAILfSTROKEgTHROUGH DESCENDERdQ",
  "eWITH DIAGONAL STROKEfSTROKE THROUGH DESCENDERdReROTUNDAeWITH ACUTEfCARONfCEDILLAfDOT ABOVE",
  "gBELOWhAND MACRONfDOUBLE GRAVEfINVERTED BREVEfLINE BELOWfOBLIQUE STROKEfSTROKEfTAIL",
  "dREVERSED C WITH DOTeEeHALF HeOPEN EdRUM ROTUNDAdSeWITH ACUTEgAND DOT ABOVEfCARON",
  "gAND DOT ABOVEfCEDILLAfCIRCUMFLEXfCOMMA BELOWfDOT ABOVEgBELOWhAND DOT ABOVEfHOOK",
  "fOBLIQUE STROKEfSHORT STROKE OVERLAYfSWASH TAILdSALTILLOdSCHWAdSCRIPT GdSHARP SdSIGMOID S",
  "dSMALL CAPITAL IeQ WITH HOOK TAILdTeWITH CARONfCEDILLAfCIRCUMFLEX BELOWfCOMMA BELOW",
  "fDIAGONAL STROKEfDOT ABOVEgBELOWfHOOKfLINE BELOWfRETROFLEX HOOKfSTROKEdTHORNeWITH STROKE",
  "gTHROUGH DESCENDERdTONE FIVEeSIXeTWOdTRESILLOdTURNED AeALPHAeHeINSULAR GeKeLeMeTeVdTZdUeBAR",
  "eWITH ACUTEfBREVEfCARONfCIRCUMFLEXgBELOWfDIAERESISgAND ACUTEhCARONhGRAVEhMACRONgBELOW",
  "fDOT BELOWfDOUBLE ACUTEgGRAVEfGRAVEfHOOK ABOVEfHORNgAND ACUTEhDOT BELOWhGRAVEhHOOK ABOVEhTILDE",
  "fINVERTED BREVEfMACRONgAND DIAERESISfOGONEKfRING ABOVEfSTROKEfTILDEgAND ACUTEgBELOWdUPSILONdV",
  "eWITH DIAGONAL STROKEfDOT BELOWfHOOKfTILDEdVENDdVISIGOTHIC ZdVOLAPUK AEeOEeUEdVYdWeWITH ACUTE",
  "fCIRCUMFLEXfDIAERESISfDOT ABOVEgBELOWfGRAVEfHOOKdWYNNdXeWITH DIAERESISfDOT ABOVEdYeWITH ACUTE",
  "fCIRCUMFLEXfDIAERESISfDOT ABOVEgBELOWfGRAVEfHOOKgABOVEfLOOPfMACRONfSTROKEfTILDEdYOGHdZ",
  "eWITH ACUTEfCARONfCIRCUMFLEXfDESCENDERfDOT ABOVEgBELOWfHOOKfLINE BELOWfPALATAL HOOKfSTROKE",
  "fSWASH TAILcLIGATURE IJdOEbCROSSbEPIGRAPHIC LETTER ARCHAIC MdI LONGAdINVERTED MdREVERSED FeP",
  "dSIDEWAYS IbLETTER AINcALVEOLAR CLICKcBIDENTAL PERCUSSIVEcBILABIAL CLICKdPERCUSSIVE",
  "cDENTAL CLICKcGLOTTAL STOPeWITH STROKEcINVERTED GLOTTAL STOPfWITH CURLgSTROKEcLATERAL CLICK",
  "cPHARYNGEAL VOICED FRICATIVEcRETROFLEX CLICKeWITH RETROFLEX HOOKcREVERSED ESH LOOP",
  "dGLOTTAL STOP WITH STROKEcSINOLOGICAL DOTcSMALL CAPITAL AeAEeBeBARRED BeCeDeEeETHeEZHeFeG",
  "fWITH HOOKeHeIeINVERTED ReJeKeLfWITH BELTgSTROKEeMeNeOeOEeOPEN OeOUePeQeRfWITH RIGHT LEG",
  "eREVERSED NfReRUMeSeTeTURNED EfGfKfMfReUeVeWeYeZcSTRETCHED CeWITH CURLcTWO WITH STROKE",
  "cVOICED LARYNGEAL SPIRANTcWYNNcYRbSMALL CAPITAL LETTER I WITH STROKEeU WITH STROKEcLETTER A",
  "eREVERSED-SCHWAeWITH ACUTEfBREVEgAND ACUTEhDOT BELOWhGRAVEhHOOK ABOVEhTILDEfCARONfCIRCUMFLEX",
  "gAND ACUTEhDOT BELOWhGRAVEhHOOK ABOVEhTILDEfDIAERESISgAND MACRONfDOT ABOVEhAND MACRONgBELOW",
  "fDOUBLE GRAVEfGRAVEfHOOK ABOVEfINVERTED BREVEfMACRONfOGONEKfRETROFLEX HOOKfRIGHT HALF RING",
  "fRING ABOVEhAND ACUTEgBELOWfSTROKEfTILDEdAAdAEeWITH ACUTEfMACRONdALPHAeWITH RETROFLEX HOOK",
  "dANGLICANA WdAOdAUdAVeWITH HORIZONTAL BARdAYdBeWITH DOT ABOVEgBELOWfFLOURISHfHOOKfLINE BELOW",
  "fMIDDLE TILDEfPALATAL HOOKfSTROKEfTOPBARdBARRED ALPHAeEeOdBASELINE ESHdBETAdBLACKLETTER EeO",
  "fWITH STROKEdBOTTOM HALF OdBROKEN LdCeWITH ACUTEfBARfCARONfCEDILLAgAND ACUTEfCIRCUMFLEXfCURL",
  "fDOT ABOVEfHOOKfPALATAL HOOKfRETROFLEX HOOKfSTROKEdCHIeWITH LOW LEFT SERIFgRIGHT RING",
  "dCLOSED INSULAR GeOMEGAeOPEN EeREVERSED OPEN EdCONdCUATRILLOeWITH COMMAdDeWITH CARONfCEDILLA",
  "fCIRCUMFLEX BELOWfCURLfDOT ABOVEgBELOWfHOOKgAND TAILfLINE BELOWfMIDDLE TILDEfPALATAL HOOK",
  "fSHORT STROKE OVERLAYfSTROKEfTAILfTOPBARdDB DIGRAPHdDELTAdDEZH DIGRAPHfWITH PALATAL HOOK",
  "gRETROFLEX HOOKdDOTLESS IeJfWITH STROKEhAND HOOKdDOUBLE RfWITH CROSSED-TAILeTHORNeWYNNdDUMdDZ",
  "eDIGRAPHfWITH CURLgRETROFLEX HOOKeWITH CARONdEeWITH ACUTEfBREVEfCARONfCEDILLAgAND BREVE",
  "fCIRCUMFLEXgAND ACUTEhDOT BELOWhGRAVEhHOOK ABOVEhTILDEgBELOWfDIAERESISfDOT ABOVEgBELOW",
  "fDOUBLE GRAVEfFLOURISHfGRAVEfHOOK ABOVEfINVERTED BREVEfMACRONgAND ACUTEhGRAVEfNOTCHfOGONEK",
  "fRETROFLEX HOOKfSTROKEfTILDEgBELOWdEGYPTOLOGICAL AINeALEFdENGeWITH CROSSED-TAILfPALATAL HOOK",
  "dESHeWITH CURLfDOUBLE BARhAND CURLfPALATAL HOOKfRETROFLEX HOOKdETdETHdEZHeREVERSEDeWITH CARON",
  "fCURLfPALATAL HOOKfRETROFLEX HOOKfTAILdFeWITH DOT ABOVEfHOOKfMIDDLE TILDEfPALATAL HOOKfSTROKE",
  "dFENG DIGRAPHfWITH TRILLdGeWITH ACUTEfBREVEfCARONfCEDILLAfCIRCUMFLEXfDOT ABOVEfHOOKfMACRON",
  "fOBLIQUE STROKEfPALATAL HOOKfSTROKEdGAMMAdGHAdGLOTTAL AeIeSTOPeUdHeWITH BREVE BELOWfCARON",
  "fCEDILLAfCIRCUMFLEXfDESCENDERfDIAERESISfDOT ABOVEgBELOWfHOOKfLINE BELOWfPALATAL HOOKfSTROKE",
  "dHALF HdHENGeWITH HOOKdHVdIeWITH ACUTEfBREVEfCARONfCIRCUMFLEXfDIAERESISgAND ACUTEfDOT BELOW",
  "fDOUBLE GRAVEfGRAVEfHOOK ABOVEfINVERTED BREVEfMACRONfOGONEKfRETROFLEX HOOKfSTROKE",
  "gAND RETROFLEX HOOKfTILDEgBELOWdINSULAR DeFeGeReSeTdINVERTED ALPHAeOEdIOTAeWITH STROKE",
  "dIOTIFIED EdISdJeWITH CARONfCIRCUMFLEXfCROSSED-TAILfSTROKEdKeWITH ACUTEfCARONfCEDILLA",
  "fDESCENDERfDIAGONAL STROKEfDOT BELOWfHOOKfLINE BELOWfOBLIQUE STROKEfPALATAL HOOKfSTROKE",
  "gAND DIAGONAL STROKEdKRAdLeWITH ACUTEfBARfBELTgAND PALATAL HOOKfCARONfCEDILLAfCIRCUMFLEX BELOW",
  "fCURLfDOT BELOWhAND MACRONfDOUBLE BARgMIDDLE TILDEfFISHHOOKfHIGH STROKEfINVERTED LAZY S",
  "fLINE BELOWfMIDDLE DOTgRINGgTILDEfPALATAL HOOKfRETROFLEX HOOKhAND BELTfSTROKE",
  "dLAMBDA WITH STROKEdLENIS FdLEZHeWITH RETROFLEX HOOKdLJdLONG SfWITH DIAGONAL STROKEgDOT ABOVE",
  "gHIGH STROKEdLS DIGRAPHdLUMdLZ DIGRAPHdMeWITH ACUTEfCROSSED-TAILfDOT ABOVEgBELOWfHOOK",
  "fMIDDLE TILDEfPALATAL HOOKdMIDDLE SCOTS SdMIDDLE-WELSH LLeVdMUMdNePRECEDED BY APOSTROPHE",
  "eWITH ACUTEfCARONfCEDILLAfCIRCUMFLEX BELOWfCROSSED-TAILfCURLfDESCENDERfDOT ABOVEgBELOWfGRAVE",
  "fLEFT HOOKfLINE BELOWfLONG RIGHT LEGfMIDDLE TILDEfOBLIQUE STROKEfPALATAL HOOKfRETROFLEX HOOK",
  "fTILDEdNJdNUMdOeWITH ACUTEfBREVEfCARONfCIRCUMFLEXgAND ACUTEhDOT BELOWhGRAVEhHOOK ABOVEhTILDE",
  "fDIAERESISgAND MACRONfDOT ABOVEhAND MACRONgBELOWfDOUBLE ACUTEgGRAVEfGRAVEfHOOK ABOVEfHORN",
  "gAND ACUTEhDOT BELOWhGRAVEhHOOK ABOVEhTILDEfINVERTED BREVEfLONG STROKE OVERLAYfLOOP",
  "fLOW RING INSIDEfMACRONgAND ACUTEhGRAVEfOGONEKgAND MACRONfRETROFLEX HOOKfSTROKEgAND ACUTE",
  "fTILDEgAND ACUTEhDIAERESIShMACRONdOIdOLD POLISH OdOMEGAdOOdOPEN EfWITH RETROFLEX HOOKeO",
  "fWITH RETROFLEX HOOKgSTROKEeOEdOUdPeWITH ACUTEfDOT ABOVEfFLOURISHfHOOKfMIDDLE TILDE",
  "fPALATAL HOOKfSQUIRREL TAILfSTROKEgTHROUGH DESCENDERdPHIdQeWITH DIAGONAL STROKEfHOOKgTAIL",
  "fSTROKE THROUGH DESCENDERdQP DIGRAPHdReROTUNDAeWITH ACUTEfCARONfCEDILLAfCROSSED-TAILfDOT ABOVE",
  "gBELOWhAND MACRONfDOUBLE GRAVEfFISHHOOKgAND MIDDLE TILDEhPALATAL HOOKfINVERTED BREVE",
  "fLINE BELOWfLONG LEGfMIDDLE TILDEfOBLIQUE STROKEfPALATAL HOOKfSTROKEfTAILeWITHOUT HANDLE",
  "dRAMS HORNdREVERSED CfWITH DOTeEeENGeHALF HeKeOPEN EgWITH HOOKhRETROFLEX HOOKeR WITH FISHHOOK",
  "eSCRIPT GdRUMeROTUNDAdSeWITH ACUTEgAND DOT ABOVEfCARONgAND DOT ABOVEfCEDILLAfCIRCUMFLEX",
  "fCOMMA BELOWfCURLfDOT ABOVEgBELOWhAND DOT ABOVEfHOOKfMIDDLE TILDEfOBLIQUE STROKEfPALATAL HOOK",
  "fSHORT STROKE OVERLAYfSWASH TAILdSAKHA YATdSALTILLOdSCHWAeWITH HOOKfRETROFLEX HOOKdSCRIPT G",
  "fWITH CROSSED-TAILeRfWITH RINGdSHARP SdSIDEWAYS DIAERESIZED UeOfWITH STROKEeOPEN OeTURNED MeU",
  "dSIGMOID SdSQUAT REVERSED ESHdSTIRRUP RdTeWITH CARONfCEDILLAfCIRCUMFLEX BELOWfCOMMA BELOWfCURL",
  "fDIAERESISfDIAGONAL STROKEfDOT ABOVEgBELOWfHOOKgAND RETROFLEX HOOKfLINE BELOWfMIDDLE TILDE",
  "fPALATAL HOOKfRETROFLEX HOOKfSTROKEdTAILLESS PHIdTC DIGRAPH WITH CURLdTESH DIGRAPH",
  "fWITH PALATAL HOOKgRETROFLEX HOOKdTH WITH STRIKETHROUGHdTHORNeWITH STROKEgTHROUGH DESCENDER",
  "dTONE FIVEeSIXeTWOdTOP HALF OdTRESILLOdTS DIGRAPHfWITH RETROFLEX HOOKdTUMdTURNED AeAEeALPHA",
  "eDELTAeEeGeHfWITH FISHHOOKhAND TAILeIeINSULAR GeKeLeMfWITH LONG LEGeO OPEN-OgWITH STROKEeOE",
  "fWITH HORIZONTAL STROKEgSTROKEeOPEN EeRfWITH HOOKgLONG LEGiAND RETROFLEX HOOKgMIDDLE TILDE",
  "gPALATAL HOOKgTAILeTfWITH CURLeUIeVeWeYfWITH BELTdTZdUeBARfWITH SHORT RIGHT LEGeWITH ACUTE",
  "fBREVEfCARONfCIRCUMFLEXgBELOWfDIAERESISgAND ACUTEhCARONhGRAVEhMACRONgBELOWfDOT BELOW",
  "fDOUBLE ACUTEgGRAVEfGRAVEfHOOK ABOVEfHORNgAND ACUTEhDOT BELOWhGRAVEhHOOK ABOVEhTILDE",
  "fINVERTED BREVEfLEFT HOOKfMACRONgAND DIAERESISfOGONEKfRETROFLEX HOOKfRING ABOVE",
  "fSHORT RIGHT LEGfSTROKEfTILDEgAND ACUTEgBELOWdUEdUIdUMdUOdUPSILONeWITH STROKEdVeWITH CURL",
  "fDIAGONAL STROKEfDOT BELOWfHOOKfPALATAL HOOKfRIGHT HOOKfTILDEdVENDdVISIGOTHIC ZdVOLAPUK AEeOE",
  "eUEdVYdWeWITH ACUTEfCIRCUMFLEXfDIAERESISfDOT ABOVEgBELOWfGRAVEfHOOKfRING ABOVEdX",
  "eWITH DIAERESISfDOT ABOVEfLONG LEFT LEGiAND LOW RIGHT RINGiWITH SERIFfLOW RIGHT RING",
  "fPALATAL HOOKdYeWITH ACUTEfCIRCUMFLEXfDIAERESISfDOT ABOVEgBELOWfGRAVEfHOOKgABOVEfLOOPfMACRON",
  "fRING ABOVEfSHORT RIGHT LEGfSTROKEfTILDEdYOGHdZeWITH ACUTEfCARONfCIRCUMFLEXfCURLfDESCENDER",
  "fDOT ABOVEgBELOWfHOOKfLINE BELOWfMIDDLE TILDEfPALATAL HOOKfRETROFLEX HOOKfSTROKEfSWASH TAIL",
  "cLIGATURE FFdFFIdFFLdFIdFLdIJdLONG S TdOEdSTbSUBSCRIPT SMALL LETTER AeEeHeIeJeKeLeMeNeOePeReS",
  "eSCHWAeTeUeVeXaLEAF FLUTTERING IN WINDaLEAFY GREENaLEDGER",
  "aLEFT AND LOWER AND RIGHT TRIANGULAR THREE QUARTERS BLOCKdONE EIGHTH BLOCK",
  "cRIGHT DOUBLE TURNSTILEdTACKdTRIANGULAR HALF BLOCK",
  "cUPPER AND RIGHT TRIANGULAR THREE QUARTERS BLOCKdONE EIGHTH BLOCKbANGER BUBBLEbANGLE BRACKET",
  "dWITH DOTbARC LESS-THAN BRACKETbARROW WITH CIRCLED PLUSdSMALL CIRCLE",
  "bBARB DOWN RIGHT BARB DOWN HARPOONfUP HARPOONcUP RIGHT BARB DOWN HARPOONfUP HARPOON",
  "bBLACK LENTICULAR BRACKETcTORTOISE SHELL BRACKETbCEILINGbCLOSED ENTRYbCORNER BRACKET",
  "bCURLY BRACKETdLOWER HOOKdMIDDLE PIECEdUPPER HOOKbDOTTED SUBSTITUTION BRACKET",
  "bDOUBLE ANGLE BRACKETcPARENTHESIScQUOTATION MARKcWIGGLY FENCEbFISH TAILbFIVE EIGHTHS BLOCK",
  "bFLOORbHALF BLACK CIRCLEdSTARcBLOCKcCIRCLEdWITH DOTeFOUR DOTSeTHREE DOTSeTWO DOTScFOLDER",
  "cINVERSE MEDIUM SHADE AND RIGHT HALF BLOCKcMEDIUM SHADEcRUNNING MANbHAND TELEPHONE RECEIVER",
  "bLOW PARAPHRASE BRACKETbLUGGAGEbMULTIMAPbNORMAL FACTOR SEMIDIRECT PRODUCTbONE EIGHTH BLOCK",
  "cQUARTER BLOCKbOUTER JOINbPARENTHESIScEXTENSIONcLOWER HOOKcUPPER HOOKbRAISED OMISSION BRACKET",
  "bRIGHT ARROWdTHROUGH SMALL CIRCLEdWITH DOUBLE VERTICAL STROKEeSTROKEeVERTICAL STROKE",
  "cBLACK ARROWcDOUBLE ARROWeWITH STROKEfVERTICAL STROKEcOPEN-HEADED ARROWcSANS-SERIF ARROW",
  "cTRIANGLE-HEADED ARROWcWAVE ARROWcWHITE ARROWbS-SHAPED BAG DELIMITERbSEMIDIRECT PRODUCT",
  "bSEVEN EIGHTHS BLOCKbSIDEWAYS U BRACKETbSINGLE QUOTATION MARKbSPEECH BUBBLEbSQUARE BRACKET",
  "dEXTENSIONdLOWER CORNERdUPPER CORNERdWITH DOUBLE STROKEeQUILLeSTROKEeTICK IN BOTTOM CORNER",
  "gTOP CORNEReUNDERBARbSUBSTITUTION BRACKETbTACKbTHIRD WHITE RIGHT POINTING INDEXbTHOUGHT BUBBLE",
  "bTHREE EIGHTHS BLOCKcQUARTERS BLOCKbTORTOISE SHELL BRACKETbTRANSPOSITION BRACKET",
  "bTRIANGLE BESIDE VERTICAL BARbTRIANGULAR ONE QUARTER BLOCKbVERTICAL BAR WITH QUILLcBOX LINE",
  "bWHITE CORNER BRACKETcCURLY BRACKETcLENTICULAR BRACKETcPARENTHESIScSQUARE BRACKET",
  "cTORTOISE SHELL BRACKETbWIGGLY FENCEbWRITING HANDaLEFT-FACING ARMENIAN ETERNITY SIGNbFIST",
  "bSVASTI SIGNdWITH DOTSaLEFT-HANDED INTERLACED PENTAGRAMaLEFT-POINTING ANGLE BRACKET",
  "bCURVED ANGLE BRACKETbDOUBLE ANGLE QUOTATION MARKbMAGNIFYING GLASS",
  "aLEFT-SHADED WHITE RIGHTWARDS ARROWaLEFT-SIDE ARC ANTICLOCKWISE ARROWaLEFT-TO-RIGHT EMBEDDING",
  "bISOLATEbMARKbOVERRIDEaLEFTWARDS ARROWcABOVE ALMOST EQUAL TOdREVERSE ALMOST EQUAL TO",
  "eTILDE OPERATORdSHORT RIGHTWARDS ARROWdTILDE OPERATORcAND UPPER AND LOWER ONE EIGHTH BLOCK",
  "cFROM BAReTO BLACK DIAMONDcOVER RIGHTWARDS ARROWcTHROUGH LESS-THANdSUBSETdXcTO BAR",
  "eOVER RIGHTWARDS ARROW TO BARdBLACK DIAMONDcWITH DOTTED STEMdDOUBLE VERTICAL STROKE",
  "dEQUILATERAL ARROWHEADdHOOKdLARGE TRIANGLE ARROWHEADdLOOPdMEDIUM TRIANGLE ARROWHEAD",
  "dNOTCHED TAILdPLUS BELOWdSMALL EQUILATERAL ARROWHEADeTRIANGLE ARROWHEADdSTROKEdTAIL",
  "eWITH DOUBLE VERTICAL STROKEfVERTICAL STROKEdTIP DOWNWARDSeUPWARDSdVERTICAL STROKEbARROW-TAIL",
  "bBACK-TILTED SHADOWED WHITE ARROWbBLACK ARROWcCIRCLED WHITE ARROWbBOTTOM-SHADED WHITE ARROW",
  "bCOMPRESSED ARROWbDASHED ARROWbDOUBLE ARROWdFROM BARdWITH STROKEeVERTICAL STROKEcARROW-TAIL",
  "cDASH ARROWbFINGER-POST ARROWbFRONT-TILTED SHADOWED WHITE ARROWbHAND",
  "bHARPOON OVER RIGHTWARDS HARPOONcWITH BARB DOWN ABOVE RIGHTWARDS HARPOON WITH BARB DOWN",
  "fBELOW LONG DASHfFROM BARfTO BAReDOWNWARDSeUP ABOVE LEFTWARDS HARPOON WITH BARB DOWNgLONG DASH",
  "gRIGHTWARDS HARPOON WITH BARB UPfFROM BARfTO BAReUPWARDSbHEAVY ARROWcCOMPRESSED ARROW",
  "bLEFT-SHADED WHITE ARROWbOPEN-HEADED ARROWbPAIRED ARROWSbQUADRUPLE ARROW",
  "bRIGHT-SHADED WHITE ARROWbROCKETbSANS-SERIF ARROWbSQUARED ARROWbSQUIGGLE ARROW",
  "bTOP SHADED WHITE ARROWbTRIANGLE ARROWHEADbTRIANGLE-HEADED ARROW",
  "dOVER RIGHTWARDS TRIANGLE-HEADED ARROWdTO BARdWITH BOLD SHAFTeDOUBLE HORIZONTAL STROKE",
  "fVERTICAL STROKEeHEAVY SHAFTeLONG TIP DOWNWARDSgUPWARDSeMEDIUM SHAFTeNARROW SHAFT",
  "eVERY HEAVY SHAFTcDASHED ARROWcPAIRED ARROWSbTRIPLE ARROWcDASH ARROWbTWO HEADED ARROW",
  "bTWO-HEADED ARROW FROM BARdWITH DOUBLE VERTICAL STROKEeTAILfWITH DOUBLE VERTICAL STROKE",
  "gVERTICAL STROKEeTRIANGLE ARROWHEADSeVERTICAL STROKEcTRIPLE DASH ARROWbWAVE ARROWbWHITE ARROW",
  "dWITHIN TRIANGLE ARROWHEADaLEGaLEMONaLEOaLEOPARDaLEPCHA CONSONANT SIGN KdKANGdLdMdNdNYIN-DOdP",
  "dRdTbDIGIT EIGHTcFIVEcFOURcNINEcONEcSEVENcSIXcTHREEcTWOcZERObLETTER AcBAcBLAcCAcCHAcDAcDDAcDZA",
  "cFAcFLAcGAcGLAcHAcHLAcJAcKAcKHAcKLAcLAcMAcMLAcNAcNGAcNYAcPAcPHAcPLAcRAcSAcSHAcTAcTHAcTSAcTSHA",
  "cTTAcTTHAcVAcWAcYAbPUNCTUATION CER-WAcNYET THYOOM TA-ROLcTA-ROLcTSHOOKdCER-WAbSIGN NUKTAcRAN",
  "bSUBJOINED LETTER RAdYAbVOWEL SIGN AAdEdIdOdOOdUdUU",
  "aLESS-THAN ABOVE DOUBLE-LINE EQUAL ABOVE GREATER-THANcGREATER-THAN ABOVE DOUBLE-LINE EQUAL",
  "cLEFTWARDS ARROWcSIMILAR ABOVE GREATER-THANdOR EQUAL",
  "cSLANTED EQUAL ABOVE GREATER-THAN ABOVE SLANTED EQUALbAND NOT APPROXIMATE",
  "cSINGLE-LINE NOT EQUAL TObBUT NOT EQUAL TOdEQUIVALENT TObCLOSED BY CURVEeABOVE SLANTED EQUAL",
  "bEQUAL TO OR GREATER-THANbOR APPROXIMATEcEQUAL TOcEQUIVALENT TOcGREATER-THANcSLANTED EQUAL TO",
  "fWITH DOT ABOVEiRIGHThINSIDEbOVER EQUAL TObSIGNbWITH CIRCLE INSIDEcDOTcQUESTION MARK ABOVE",
  "aLEVEL SLIDERaLFaLIBRAaLIGATURE OPEN ET ORNAMENTaLIGHT CHECK MARKbEIGHT SPOKED ASTERISK",
  "bFIVE POINTED BLACK STARcSPOKED ASTERISKbFOUR POINTED BLACK CUSPeSTARbGREEK CROSS",
  "bLEFT TORTOISE SHELL BRACKET ORNAMENTbRAILbRIGHT TORTOISE SHELL BRACKET ORNAMENTbSALTIREbSHADE",
  "bSIX SPOKED ASTERISKbTHREE POINTED BLACK STARbTWELVE POINTED BLACK STARbVERTICAL BAR",
  "bWHITE SQUAREaLIGHTNINGbMOODcBUBBLEaLIMBU DIGIT EIGHTcFIVEcFOURcNINEcONEcSEVENcSIXcTHREEcTWO",
  "cZERObEXCLAMATION MARKbLETTER BAcBHAcCAcCHAcDAcDHAcGAcGHAcGYANcHAcJAcJHAcKAcKHAcLAcMAcNAcNGA",
  "cPAcPHAcRAcSAcSHAcSSAcTAcTHAcTRAcWAcYAcYANbQUESTION MARKbSIGN KEMPHRENGcLOOcMUKPHRENGcSA-I",
  "bSMALL LETTER ANUSVARAdKAdLAdMAdNAdNGAdPAdRAdTAbSUBJOINED LETTER RAdWAdYAbVOWEL SIGN AdAIdAUdE",
  "dEEdIdOdOOdUbVOWEL-CARRIER LETTERaLIMITED LIABILITY SIGNaLINE FEED",
  "bINTEGRATION NOT INCLUDING THE POLEcWITH RECTANGULAR PATH AROUND POLE",
  "dSEMICIRCULAR PATH AROUND POLEbSEPARATORbTABULATIONcSETaLINEAR A SIGN A028BdA100-102dA120B",
  "dA131CdA301dA302dA303dA304dA305dA306dA307dA308dA309AdA309BdA309CdA310dA311dA312dA313AdA313B",
  "dA313CdA314dA315dA316dA317dA318dA319dA320dA321dA322dA323dA324dA325dA326dA327dA328dA329dA330",
  "dA331dA332dA333dA334dA335dA336dA337dA338dA339dA340dA341dA342dA343dA344dA345dA346dA347dA348",
  "dA349dA350dA351dA352dA353dA354dA355dA356dA357dA358dA359dA360dA361dA362dA363dA364dA365dA366",
  "dA367dA368dA369dA370dA371dA400-VASdA401-VASdA402-VASdA403-VASdA404-VASdA405-VASdA406-VAS",
  "dA407-VASdA408-VASdA409-VASdA410-VASdA411-VASdA412-VASdA413-VASdA414-VASdA415-VASdA416-VAS",
  "dA417-VASdA418-VASdA501dA502dA503dA504dA505dA506dA508dA509dA510dA511dA512dA513dA515dA516dA520",
  "dA521dA523dA524dA525dA526dA527dA528dA529dA530dA531dA532dA534dA535dA536dA537dA538dA539dA540",
  "dA541dA542dA545dA547dA548dA549dA550dA551dA552dA553dA554dA555dA556dA557dA559dA563dA564dA565",
  "dA566dA568dA569dA570dA571dA572dA573dA574dA575dA576dA577dA578dA579dA580dA581dA582dA583dA584",
  "dA585dA586dA587dA588dA589dA591dA592dA594dA595dA596dA598dA600dA601dA602dA603dA604dA606dA608",
  "dA609dA610dA611dA612dA613dA614dA615dA616dA617dA618dA619dA620dA621dA622dA623dA624dA626dA627",
  "dA628dA629dA634dA637dA638dA640dA642dA643dA644dA645dA646dA648dA649dA651dA652dA653dA654dA655",
  "dA656dA657dA658dA659dA660dA661dA662dA663dA664dA701 AdA702 BdA703 DdA704 EdA705 FdA706 HdA707 J",
  "dA708 KdA709 LdA709-2 L2dA709-3 L3dA709-4 L4dA709-6 L6dA710 WdA711 XdA712 YdA713 OMEGA",
  "dA714 ABBdA715 BBdA717 DDdA726 EYYYdA732 JEdA800dA801dA802dA803dA804dA805dA806dA807dAB001",
  "dAB002dAB003dAB004dAB005dAB006dAB007dAB008dAB009dAB010dAB011dAB013dAB016dAB017dAB020dAB021",
  "dAB021FdAB021MdAB022dAB022FdAB022MdAB023dAB023MdAB024dAB026dAB027dAB028dAB029dAB030dAB031",
  "dAB034dAB037dAB038dAB039dAB040dAB041dAB044dAB045dAB046dAB047dAB048dAB049dAB050dAB051dAB053",
  "dAB054dAB055dAB056dAB057dAB058dAB059dAB060dAB061dAB065dAB066dAB067dAB069dAB070dAB073dAB074",
  "dAB076dAB077dAB078dAB079dAB080dAB081dAB082dAB085dAB086dAB087dAB118dAB120dAB122dAB123dAB131A",
  "dAB131BdAB164dAB171dAB180dAB188dAB191bB IDEOGRAM B100 MANdB102 WOMANdB104 DEERdB105 EQUID",
  "dB105F MAREdB105M STALLIONdB106F EWEdB106M RAMdB107F SHE-GOATdB107M HE-GOATdB108F SOW",
  "dB108M BOARdB109F COWdB109M BULLdB120 WHEATdB121 BARLEYdB122 OLIVEdB123 SPICEdB125 CYPERUS",
  "dB130 OILdB131 WINEdB132dB140 BRONZEdB141 GOLDdB142dB145 WOOLdB146dB150dB151 HORNdB152dB153",
  "dB154dB157dB158dB159 CLOTHdB160dB161dB162 GARMENTdB163 ARMOURdB164dB165dB166dB167dB168dB169",
  "dB170dB171dB172dB173 MONTHdB174dB176 TREEdB177dB178dB179dB180dB181dB182dB183dB184dB185dB189",
  "dB190dB191 HELMETdB220 FOOTSTOOLdB225 BATHTUBdB230 SPEARdB231 ARROWdB232dB233 SWORDdB234dB236",
  "dB240 WHEELED CHARIOTdB241 CHARIOTdB242 CHARIOT FRAMEdB243 WHEELdB245dB246dB248dB249dB251dB252",
  "dB253dB254 DARTdB255dB256dB257dB258dB259dVESSEL B155eB200eB201eB202eB203eB204eB205eB206eB207",
  "eB208eB209eB210eB211eB212eB213eB214eB215eB216eB217eB218eB219eB221eB222eB226eB227eB228eB229",
  "eB250eB305cMONOGRAM B127 KAPOdB128 KANAKOdB133 AREPAdB135 MERIdB156 TURO2dB247 DIPTE",
  "cSYLLABLE B001 DAdB002 ROdB003 PAdB004 TEdB005 TOdB006 NAdB007 DIdB008 AdB009 SEdB010 U",
  "dB011 POdB012 SOdB013 MEdB014 DOdB015 MOdB016 QAdB017 ZAdB020 ZOdB021 QIdB023 MUdB024 NE",
  "dB025 A2dB026 RUdB027 REdB028 IdB029 PU2dB030 NIdB031 SAdB032 QOdB033 RA3dB036 JOdB037 TI",
  "dB038 EdB039 PIdB040 WIdB041 SIdB042 WOdB043 A3dB044 KEdB045 DEdB046 JEdB048 NWAdB050 PU",
  "dB051 DUdB052 NOdB053 RIdB054 WAdB055 NUdB057 JAdB058 SUdB059 TAdB060 RAdB061 OdB062 PTE",
  "dB065 JUdB066 TA2dB067 KIdB068 RO2dB069 TUdB070 KOdB071 DWEdB072 PEdB073 MIdB074 ZEdB075 WE",
  "dB076 RA2dB077 KAdB078 QEdB080 MAdB081 KUdB085 AUdB087 TWEdB090 DWOdB091 TWOcSYMBOL B018dB019",
  "dB022dB034dB047dB049dB056dB063dB064dB079dB082dB083dB086dB089aLINK SYMBOLaLINKED PAPERCLIPS",
  "aLION FACEaLIPSaLIPSTICKaLIRA SIGNaLISU LETTER AcAEcBAcCAcCHAcDAcDZAcEcEUcFAcGAcGHAcHAcHHAcI",
  "cJAcKAcKHAcLAcMAcNAcNGAcOcOEcPAcPHAcSAcSHAcTAcTHAcTONE MYA BOeCYAeJEUeNAeTIdNA POcTSAcTSHAcU",
  "cUEcUHcWAcXAcYAcYHAcZAcZHAbPUNCTUATION COMMAcFULL STOPaLIVRE TOURNOIS SIGNaLIZARDaLLAMA",
  "aLOBSTERaLOCKbWITH INK PENaLOCKING-SHIFT ONEbZEROaLOGICAL ANDcWITH DOT ABOVEdDOUBLE OVERBAR",
  "eUNDERBARdHORIZONTAL DASHdMIDDLE STEMdUNDERBARbORcOVERLAPPING LOGICAL ANDcWITH DOT ABOVE",
  "dDOUBLE OVERBAReUNDERBARdHORIZONTAL DASHdMIDDLE STEMaLOLLIPOP",
  "aLONG DASH FROM LEFT MEMBER OF DOUBLE VERTICALbDIVISIONbDRUMbLEFT RIGHT ARROWdDOUBLE ARROW",
  "cTACKbLEFTWARDS ARROWdFROM BARcDOUBLE ARROWeFROM BARcSQUIGGLE ARROWbRIGHT TACK",
  "bRIGHTWARDS ARROWdFROM BARcDOUBLE ARROWeFROM BARcSQUIGGLE ARROWaLOTION BOTTLEaLOTUS",
  "aLOUDLY CRYING FACEaLOVE HOTELbLETTERaLOW ASTERISKbBATTERYbBRIGHTNESS SYMBOL",
  "bDOUBLE PRIME QUOTATION MARKbKAVYKAcWITH DOTbLINEaLOWER BLADE SCISSORSbFIVE EIGHTHS BLOCK",
  "bHALF BLOCKcCIRCLEcINVERSE WHITE CIRCLEcMEDIUM SHADEbLEFT BALLPOINT PEN",
  "cBLOCK DIAGONAL LOWER MIDDLE LEFT TO LOWER CENTREjRIGHTeUPPER CENTRE TO LOWER MIDDLE RIGHT",
  "iRIGHThUPPER MIDDLE RIGHTfLEFT TO LOWER CENTREiMIDDLE RIGHThUPPER MIDDLE RIGHT",
  "fMIDDLE LEFT TO LOWER CENTREjMIDDLE RIGHTjRIGHTcCRAYONcFOUNTAIN PENcPAINTBRUSHcPENCIL",
  "cQUADRANT CIRCULAR ARCcSEMICIRCULAR ANTICLOCKWISE ARROWcTRIANGLEcTRIANGULAR MEDIUM SHADE",
  "bONE EIGHTH BLOCKcQUARTER BLOCKbRIGHT BLOCK DIAGONAL LOWER CENTRE TO LOWER MIDDLE RIGHT",
  "hUPPER MIDDLE RIGHTiRIGHTfLEFT TO LOWER MIDDLE RIGHThUPPER CENTREiMIDDLE RIGHT",
  "fMIDDLE LEFT TO UPPER CENTREjMIDDLE RIGHTjRIGHTeUPPER MIDDLE LEFT TO UPPER CENTREjRIGHT",
  "cCORNER WITH DOTcDROP-SHADOWED WHITE SQUAREcPENCILcQUADRANT CIRCULAR ARC",
  "cSEMICIRCULAR CLOCKWISE ARROWcSHADOWED WHITE CIRCLEeSQUAREcTRIANGLEcTRIANGULAR MEDIUM SHADE",
  "bSEVEN EIGHTHS BLOCKbTHREE EIGHTHS BLOCKcQUARTERS BLOCKbTRIANGULAR ONE QUARTER BLOCKaLOZENGE",
  "bDIVIDED BY HORIZONTAL RULEaLREaLRIaLRMaLROaLUGGAGEaLUNGSaLYCIAN LETTER AcANcBcBHcDcEcENcGcHcI",
  "cJcKcKKcLcMcMMcNcNNcPcQcRcScTcTHcTTcUcWcXcZaLYDIAN LETTER AcANcBcCcDcEcENcFcGcIcKcLcLYcMcNcNN",
  "cOcQcRcScSScTcTTcUcVcYbTRIANGULAR MARKaLYING FACEaMACRONaMAGEaMAGIC WANDaMAGNET",
  "aMAHAJANI ABBREVIATION SIGNbLETTER AcBAcBHAcCAcCHAcDAcDDAcDDHAcDHAcEcGAcGHAcHAcIcJAcJHAcKAcKHA",
  "cLAcMAcNAcNNAcNYAcOcPAcPHAcRAcRRAcSAcTAcTHAcTTAcTTHAcUcVAbLIGATURE SHRIbSECTION MARK",
  "bSIGN NUKTAaMAHJONG TILE AUTUMNcBACKcBAMBOOcCHRYSANTHEMUMcEAST WINDcEIGHT OF BAMBOOS",
  "eCHARACTERSeCIRCLEScFIVE OF BAMBOOSeCHARACTERSeCIRCLEScFOUR OF BAMBOOSeCHARACTERSeCIRCLES",
  "cGREEN DRAGONcJOKERcNINE OF BAMBOOSeCHARACTERSeCIRCLEScNORTH WINDcONE OF BAMBOOSeCHARACTERS",
  "eCIRCLEScORCHIDcPLUMcRED DRAGONcSEVEN OF BAMBOOSeCHARACTERSeCIRCLEScSIX OF BAMBOOSeCHARACTERS",
  "eCIRCLEScSOUTH WINDcSPRINGcSUMMERcTHREE OF BAMBOOSeCHARACTERSeCIRCLEScTWO OF BAMBOOS",
  "eCHARACTERSeCIRCLEScWEST WINDcWHITE DRAGONcWINTERaMAKASAR ANGKAbEND OF SECTIONbLETTER AcBAcCA",
  "cDAcGAcJAcKAcLAcMAcNAcNGAcNYAcPAcRAcSAcTAcVAcYAbPASSIMBANGbVOWEL SIGN EdIdOdU",
  "aMALAYALAM AU LENGTH MARKbDATE MARKbDIGIT EIGHTcFIVEcFOURcNINEcONEcSEVENcSIXcTHREEcTWOcZERO",
  "bFRACTION ONE EIGHTHdFIFTHdFORTIETHdHALFdONE-HUNDRED-AND-SIXTIETHdQUARTERdSIXTEENTHdTENTH",
  "dTWENTIETHcTHREE EIGHTIETHSdQUARTERSdSIXTEENTHSdTWENTIETHSbLETTER AcAAcAIcARCHAIC IIcAUcBAcBHA",
  "cCAcCHAcCHILLU KdLdLLdLLLdMdNdNNdRRdYcDAcDDAcDDHAcDHAcDOT REPHcEcEEcGAcGHAcHAcIcIIcJAcJHAcKA",
  "cKHAcLAcLLAcLLLAcMAcNAcNGAcNNAcNNNAcNYAcOcOOcPAcPHAcRAcRRAcSAcSHAcSSAcTAcTHAcTTAcTTHAcTTTAcU",
  "cUUcVAcVEDIC ANUSVARAcVOCALIC LdLLdRdRRcYAbNUMBER ONE HUNDREDdTHOUSANDcTENbSIGN ANUSVARA",
  "cAVAGRAHAcCANDRABINDUcCIRCULAR VIRAMAcCOMBINING ANUSVARA ABOVEcPARAcVERTICAL BAR VIRAMAcVIRAMA",
  "cVISARGAbVOWEL SIGN AAdAIdAUdEdEEdIdIIdOdOOdUdUUdVOCALIC LeLLeReRRaMALE AND FEMALE SIGNbSIGN",
  "bWITH STROKE AND MALE AND FEMALE SIGNdSIGNaMALTESE CROSSaMAMMOTHaMANbAND WOMAN HOLDING HANDS",
  "bDANCINGbIN BUSINESS SUIT LEVITATINGcTUXEDObWITH GUA PI MAOcTURBANaMANAT SIGN",
  "aMANDAIC AFFRICATION MARKbGEMINATION MARKbLETTER ABcADcAGcAHcAINcAKcAKSAcALcAMcANcAPcAQcARcAS",
  "cASHcASZcATcATTcAZcDUSHENNAcHALQAcINcITcKADcUSHENNAbPUNCTUATIONbVOCALIZATION MARKaMANGO",
  "aMANICHAEAN ABBREVIATION MARK ABOVEdBELOWbLETTER AAYINcALEPHcAYINcBETHcBHETHcDALETHcDHAMEDHcFE",
  "cGHIMELcGIMELcHEcHETHcJAYINcJHAYINcKAPHcKHAPHcLAMEDHcMEMcNUNcPEcQHOPHcQOPHcRESHcSADHEcSAMEKH",
  "cSHINcSSHINcTAWcTETHcTHAMEDHcWAWcXAPHcXOPHcYODHcZAYINcZHAYINbNUMBER FIVEcONEdHUNDREDcTEN",
  "cTWENTYbPUNCTUATION DOTdWITHIN DOTcDOUBLE DOT WITHIN DOTcFLEURONcLINE FILLERcSTARcTWO DOTS",
  "bSIGN UDaMANS SHOEaMANTELPIECE CLOCKaMANUAL WHEELCHAIRaMAP SYMBOL FOR LIGHTHOUSEaMAPLE LEAF",
  "aMARCHEN HEAD MARKbLETTER -AcAcBAcCAcCHAcDAcDZAcGAcHAcJAcKAcKHAcLAcMAcNAcNGAcNYAcPAcPHAcRAcSA",
  "cSHAcTAcTHAcTSAcTSHAcWAcYAcZAcZHAbMARK SHADbSIGN ANUSVARAcCANDRABINDUbSUBJOINED LETTER AdBAdCA",
  "dCHAdDAdDZAdGAdHAdJAdKAdKHAdLAdMAdNAdNGAdNYAdPAdPHAdRAdSAdSHAdTAdTHAdTSAdTSHAdWAdYAdZAdZHA",
  "bVOWEL SIGN AAdEdIdOdUaMARRIAGE SYMBOLaMARTIAL ARTS UNIFORMaMASARAM GONDI DIGIT EIGHTdFIVE",
  "dFOURdNINEdONEdSEVENdSIXdTHREEdTWOdZEROcLETTER AdAAdAIdAUdBAdBHAdCAdCHAdDAdDDAdDDHAdDHAdEdGA",
  "dGHAdHAdIdIIdJAdJHAdJNYAdKAdKHAdKSSAdLAdLLAdMAdNAdNGAdNNAdNYAdOdPAdPHAdRAdSAdSHAdSSAdTAdTHA",
  "dTRAdTTAdTTHAdUdUUdVAdYAcRA-KARAcREPHAcSIGN ANUSVARAdCANDRAdHALANTAdNUKTAdVISARGAcVIRAMA",
  "cVOWEL SIGN AAeAIeAUeEeIeIIeOeUeUUeVOCALIC RaMASCULINE ORDINAL INDICATORaMASK WORK SYMBOL",
  "aMASU MARKaMATE DRINKaMATHEMATICAL BOLD CAPITAL AdALPHAdBdBETAdCdCHIdDdDELTAdDIGAMMAdEdEPSILON",
  "dETAdFdGdGAMMAdHdIdIOTAdJdKdKAPPAdLdLAMDAdMdMUdNdNUdOdOMEGAdOMICRONdPdPHIdPIdPSIdQdRdRHOdS",
  "dSIGMAdTdTAUdTHETAeSYMBOLdUdUPSILONdVdWdXdXIdYdZdZETAcDIGIT EIGHTdFIVEdFOURdNINEdONEdSEVENdSIX",
  "dTHREEdTWOdZEROcEPSILON SYMBOLcFRAKTUR CAPITAL AeBeCeDeEeFeGeHeIeJeKeLeMeNeOePeQeReSeTeUeVeWeX",
  "eYeZdSMALL AeBeCeDeEeFeGeHeIeJeKeLeMeNeOePeQeReSeTeUeVeWeXeYeZcITALIC CAPITAL AeALPHAeBeBETAeC",
  "eCHIeDeDELTAeEeEPSILONeETAeFeGeGAMMAeHeIeIOTAeJeKeKAPPAeLeLAMDAeMeMUeNeNUeOeOMEGAeOMICRONeP",
  "ePHIePIePSIeQeReRHOeSeSIGMAeTeTAUeTHETAfSYMBOLeUeUPSILONeVeWeXeXIeYeZeZETAdEPSILON SYMBOL",
  "dKAPPA SYMBOLdNABLAdPARTIAL DIFFERENTIALdPHI SYMBOLdPI SYMBOLdRHO SYMBOLdSMALL AeALPHAeBeBETA",
  "eCeCHIeDeDELTAeEeEPSILONeETAeFeFINAL SIGMAeGeGAMMAeHeIeIOTAeJeKeKAPPAeLeLAMDAeMeMUeNeNUeO",
  "eOMEGAeOMICRONePePHIePIePSIeQeReRHOeSeSIGMAeTeTAUeTHETAeUeUPSILONeVeWeXeXIeYeZeZETA",
  "dTHETA SYMBOLcKAPPA SYMBOLcNABLAcPARTIAL DIFFERENTIALcPHI SYMBOLcPI SYMBOLcRHO SYMBOL",
  "cSCRIPT CAPITAL AeBeCeDeEeFeGeHeIeJeKeLeMeNeOePeQeReSeTeUeVeWeXeYeZdSMALL AeBeCeDeEeFeGeHeIeJ",
  "eKeLeMeNeOePeQeReSeTeUeVeWeXeYeZcSMALL AdALPHAdBdBETAdCdCHIdDdDELTAdDIGAMMAdEdEPSILONdETAdF",
  "dFINAL SIGMAdGdGAMMAdHdIdIOTAdJdKdKAPPAdLdLAMDAdMdMUdNdNUdOdOMEGAdOMICRONdPdPHIdPIdPSIdQdRdRHO",
  "dSdSIGMAdTdTAUdTHETAdUdUPSILONdVdWdXdXIdYdZdZETAcTHETA SYMBOLbDOUBLE-STRUCK CAPITAL AdBdDdEdF",
  "dGdIdJdKdLdMdOdSdTdUdVdWdXdYcDIGIT EIGHTdFIVEdFOURdNINEdONEdSEVENdSIXdTHREEdTWOdZEROcSMALL AdB",
  "dCdDdEdFdGdHdIdJdKdLdMdNdOdPdQdRdSdTdUdVdWdXdYdZbFALLING DIAGONALbFRAKTUR CAPITAL AdBdDdEdFdG",
  "dJdKdLdMdNdOdPdQdSdTdUdVdWdXdYcSMALL AdBdCdDdEdFdGdHdIdJdKdLdMdNdOdPdQdRdSdTdUdVdWdXdYdZ",
  "bITALIC CAPITAL AdALPHAdBdBETAdCdCHIdDdDELTAdEdEPSILONdETAdFdGdGAMMAdHdIdIOTAdJdKdKAPPAdL",
  "dLAMDAdMdMUdNdNUdOdOMEGAdOMICRONdPdPHIdPIdPSIdQdRdRHOdSdSIGMAdTdTAUdTHETAeSYMBOLdUdUPSILONdVdW",
  "dXdXIdYdZdZETAcEPSILON SYMBOLcKAPPA SYMBOLcNABLAcPARTIAL DIFFERENTIALcPHI SYMBOLcPI SYMBOL",
  "cRHO SYMBOLcSMALL AdALPHAdBdBETAdCdCHIdDdDELTAdDOTLESS IeJdEdEPSILONdETAdFdFINAL SIGMAdGdGAMMA",
  "dIdIOTAdJdKdKAPPAdLdLAMDAdMdMUdNdNUdOdOMEGAdOMICRONdPdPHIdPIdPSIdQdRdRHOdSdSIGMAdTdTAUdTHETAdU",
  "dUPSILONdVdWdXdXIdYdZdZETAcTHETA SYMBOLbLEFT ANGLE BRACKETcDOUBLE ANGLE BRACKET",
  "cFLATTENED PARENTHESIScWHITE SQUARE BRACKETdTORTOISE SHELL BRACKETbMONOSPACE CAPITAL AdBdCdDdE",
  "dFdGdHdIdJdKdLdMdNdOdPdQdRdSdTdUdVdWdXdYdZcDIGIT EIGHTdFIVEdFOURdNINEdONEdSEVENdSIXdTHREEdTWO",
  "dZEROcSMALL AdBdCdDdEdFdGdHdIdJdKdLdMdNdOdPdQdRdSdTdUdVdWdXdYdZbRIGHT ANGLE BRACKET",
  "cDOUBLE ANGLE BRACKETcFLATTENED PARENTHESIScWHITE SQUARE BRACKETdTORTOISE SHELL BRACKET",
  "bRISING DIAGONALbSANS-SERIF BOLD CAPITAL AeALPHAeBeBETAeCeCHIeDeDELTAeEeEPSILONeETAeFeGeGAMMA",
  "eHeIeIOTAeJeKeKAPPAeLeLAMDAeMeMUeNeNUeOeOMEGAeOMICRONePePHIePIePSIeQeReRHOeSeSIGMAeTeTAUeTHETA",
  "fSYMBOLeUeUPSILONeVeWeXeXIeYeZeZETAdDIGIT EIGHTeFIVEeFOUReNINEeONEeSEVENeSIXeTHREEeTWOeZERO",
  "dEPSILON SYMBOLdITALIC CAPITAL AfALPHAfBfBETAfCfCHIfDfDELTAfEfEPSILONfETAfFfGfGAMMAfHfIfIOTAfJ",
  "fKfKAPPAfLfLAMDAfMfMUfNfNUfOfOMEGAfOMICRONfPfPHIfPIfPSIfQfRfRHOfSfSIGMAfTfTAUfTHETAgSYMBOLfU",
  "fUPSILONfVfWfXfXIfYfZfZETAeEPSILON SYMBOLeKAPPA SYMBOLeNABLAePARTIAL DIFFERENTIALePHI SYMBOL",
  "ePI SYMBOLeRHO SYMBOLeSMALL AfALPHAfBfBETAfCfCHIfDfDELTAfEfEPSILONfETAfFfFINAL SIGMAfGfGAMMAfH",
  "fIfIOTAfJfKfKAPPAfLfLAMDAfMfMUfNfNUfOfOMEGAfOMICRONfPfPHIfPIfPSIfQfRfRHOfSfSIGMAfTfTAUfTHETAfU",
  "fUPSILONfVfWfXfXIfYfZfZETAeTHETA SYMBOLdKAPPA SYMBOLdNABLAdPARTIAL DIFFERENTIALdPHI SYMBOL",
  "dPI SYMBOLdRHO SYMBOLdSMALL AeALPHAeBeBETAeCeCHIeDeDELTAeEeEPSILONeETAeFeFINAL SIGMAeGeGAMMAeH",
  "eIeIOTAeJeKeKAPPAeLeLAMDAeMeMUeNeNUeOeOMEGAeOMICRONePePHIePIePSIeQeReRHOeSeSIGMAeTeTAUeTHETAeU",
  "eUPSILONeVeWeXeXIeYeZeZETAdTHETA SYMBOLcCAPITAL AdBdCdDdEdFdGdHdIdJdKdLdMdNdOdPdQdRdSdTdUdVdW",
  "dXdYdZcDIGIT EIGHTdFIVEdFOURdNINEdONEdSEVENdSIXdTHREEdTWOdZEROcITALIC CAPITAL AeBeCeDeEeFeGeH",
  "eIeJeKeLeMeNeOePeQeReSeTeUeVeWeXeYeZdSMALL AeBeCeDeEeFeGeHeIeJeKeLeMeNeOePeQeReSeTeUeVeWeXeYeZ",
  "cSMALL AdBdCdDdEdFdGdHdIdJdKdLdMdNdOdPdQdRdSdTdUdVdWdXdYdZbSCRIPT CAPITAL AdCdDdGdJdKdNdOdPdQ",
  "dSdTdUdVdWdXdYdZcSMALL AdBdCdDdFdHdIdJdKdLdMdNdPdQdRdSdTdUdVdWdXdYdZaMAXIMIZE",
  "aMAYAN NUMERAL EIGHTcEIGHTEENcELEVENcFIFTEENcFIVEcFOURcFOURTEENcNINEcNINETEENcONEcSEVEN",
  "cSEVENTEENcSIXcSIXTEENcTENcTHIRTEENcTHREEcTWELVEcTWOcZEROaMEASURED ANGLEcOPENING LEFT",
  "cWITH OPEN ARM ENDING IN ARROW POINTING DOWN AND LEFTlRIGHTjLEFT AND DOWNlUPjRIGHT AND DOWNlUP",
  "jUP AND LEFTlRIGHTbBYbRIGHT ANGLE WITH DOTaMEAT ON BONEaMECHANICAL ARMbLEG",
  "aMEDEFAIDRIN CAPITAL LETTER AdAIdATIUdBdCdDdEdFdGdHdHPdIdJdKdKPdLdMdNdNGdNYdOdOEdPdQdRdSdTdUdV",
  "dWdXdYdYUdZbCOMMAbDIGIT EIGHTcFIVEcFOURcNINEcONEdALTERNATE FORMcSEVENcSIXcTHREEdALTERNATE FORM",
  "cTWOdALTERNATE FORMcZERObEXCLAMATION OHbFULL STOPbNUMBER EIGHTEENcELEVENcFIFTEENcFOURTEEN",
  "cNINETEENcSEVENTEENcSIXTEENcTENcTHIRTEENcTWELVEbSMALL LETTER AdAIdATIUdBdCdDdEdFdGdHdHPdIdJdK",
  "dKPdLdMdNdNGdNYdOdOEdPdQdRdSdTdUdVdWdXdYdYUdZbSYMBOL AIVAaMEDIEVAL COMMAbEXCLAMATION MARK",
  "bQUESTION MARKaMEDIUM BLACK CIRCLEbBOLD WHITE CIRCLEbEIGHT POINTED BLACK STARcSPOKED ASTERISK",
  "bFIVE SPOKED ASTERISKbFLATTENED LEFT PARENTHESIS ORNAMENTcRIGHT PARENTHESIS ORNAMENT",
  "bFOUR POINTED BLACK STARdPINWHEEL STARbGREEK CROSSbLEFT CURLY BRACKET ORNAMENT",
  "cPARENTHESIS ORNAMENTbLEFT-POINTING ANGLE BRACKET ORNAMENTbMATHEMATICAL SPACE",
  "bRIGHT CURLY BRACKET ORNAMENTcPARENTHESIS ORNAMENTbRIGHT-POINTING ANGLE BRACKET ORNAMENT",
  "bSALTIREbSHADEbSIX POINTED BLACK STARcSPOKED ASTERISKbSMALL WHITE CIRCLE",
  "bTHREE POINTED BLACK STARdPINWHEEL STARbVERTICAL BARbWHITE CIRCLEcSQUARE",
  "aMEETEI MAYEK AHANG KHUDAMcANJIcAPUN IYEKcCHEIKHANcCHEIKHEIcDIGIT EIGHTdFIVEdFOURdNINEdONE",
  "dSEVENdSIXdTHREEdTWOdZEROcLETTER ATIYAdBAdBHAMdCHAdCHILdDDAdDDHAdDHOUdDILdEdGHOUdGOKdHUKdI",
  "eLONSUMdJHAMdJILdKHOUdKOKeLONSUMdLAIeLONSUMdMITeLONSUMdNAeLONSUMdNGOUeLONSUMdNNAdNYAdOdPA",
  "eLONSUMdPHAMdRAIdSAMdSHAdSSAdTHOUdTILeLONSUMdTTAdTTHAdUNdWAIdYANGcLUM IYEK",
  "cSYLLABLE REPETITION MARKcVIRAMAcVOWEL SIGN AAIeAAUeANAPeAUeCHEINAPeIIeINAPeNUNGeONAPeSOUNAP",
  "eUNAPeUUeVISARGAeYENAPcWORD REPETITION MARKaMELONaMELTING FACEaMEMO",
  "aMENDE KIKAKUI COMBINING NUMBER HUNDRED THOUSANDSeHUNDREDSeMILLIONSeTEENSeTEN THOUSANDSeTENS",
  "eTHOUSANDScDIGIT EIGHTdFIVEdFOURdNINEdONEdSEVENdSIXdTHREEdTWOcSYLLABLE M001 KIdM002 KAdM003 KU",
  "dM004 WIdM005 WAdM006 WUdM007 MINdM008 MANdM009 MUNdM010 BIdM011 BAdM012 BUdM013 IdM014 A",
  "dM015 UdM016 DIdM017 DAdM018 DUdM019 SIdM020 SAdM021 SUdM022 TIdM023 TAdM024 TUdM025 LI",
  "dM026 LAdM027 LUdM028 JIdM029 JAdM030 JUdM031 YIdM032 YAdM033 YUdM034 FIdM035 FAdM036 FU",
  "dM037 NINdM038 NANdM039 NUNdM040 HEEdM041 HAdM042 HOOdM043 NGGAdM044 KPEEdM045 WOdM046 HUAN",
  "dM047 MBEEdM048 KOdM049 WVAdM050 PUdM051 PEdM052 HENdM053 HINdM054 LOOdM055 TEdM056 GBA",
  "dM057 NGONdM058 NYANdM059 MENdM060 NYONdM061 WVIdM062 MBAdM063 JOdM064 NDOdM065 KEEdM066 PO",
  "dM067 NDOOdM068 PIdM069 TOdM070 GBOdM071 GBOOdM072 MBEdM073 LEdM074 KPUdM075 FEdM076 KOO",
  "dM077 VOdM078 FEEdM079 SOdM080 YEdM081 PEEdM082 NGGUdM083 HEEIdM084 LEEdM085 VEdM086 LONG NGGE",
  "dM087 HUNdM088 FOdM089 DEEdM090 NGGIdM091 TEEdM092 KPAdM093 GBEEdM094 MONdM095 KEdM096 HE",
  "dM097 BEdM098 NYENdM099 PAdM100 EdM101 FANdM102 POOdM103 BOOdM104 TOOdM105 LONG MBOO",
  "dM106 LONG NGGOOdM107 GBEdM108 KPEdM109 YEEdM110 LONG LEdM111 GAdM112 KPOOdM113 JEdM114 WOO",
  "dM115 NGGEEdM116 SEdM117 NENdM118 WEdM119 NDEdM120 NGGOdM121 YOdM122 MBUdM123 NDIdM124 GBI",
  "dM125 NDUdM126 WEEdM127 NGGUAdM128 HOOUdM129 NDAdM130 HANdM131 INdM132 KPIdM133 FOOdM134 NJOO",
  "dM135 INdM136 SOOdM137 EIdM138 BOdM139 WVEdM140 HOdM141 YOOdM142 LONG MBOdM143 WEIdM144 VOO",
  "dM145 MBIdM146 NGGEdM147 OdM148 GBUdM149 NJEEdM150 BEEdM151 VUdM152 NJAdM153 LOdM154 MUAN",
  "dM155 GIdM156 NGGOOdM157 JEEdM158 KPOdM159 NGGAAdM160 JOOdM161 LONG MBEdM162 SEEdM163 EE",
  "dM164 NYINdM165 OOdM166 GUEIdM167 GUANdM168 GUdM169 NONdM170 NYUNdM171 RAdM172 MBOOdM173 VEE",
  "dM174 MBOdM175 LONG JOdM176 HIdM177 NGUANdM178 ENdM179 KUAdM180 DOOdM181 DOdM182 VI",
  "dM183 LONG NGGOdM184 NGENdM185 VAdM186 HUdM187 MBUUdM188 MBEEdM189 MUENdM190 GEEdM191 NDEE",
  "dM192 NJUdM193 HONdM194 WUIdM195 ANdM196 SIAdM197 FUAaMENORAH WITH NINE BRANCHESaMENS SYMBOL",
  "aMERCURYaMEROITIC CURSIVE FRACTION EIGHT TWELFTHSdELEVEN TWELFTHSdFIVE TWELFTHSdFOUR TWELFTHS",
  "dNINE TWELFTHSdONE HALFeTWELFTHdSEVEN TWELFTHSdSIX TWELFTHSdTEN TWELFTHSdTHREE TWELFTHS",
  "dTWO TWELFTHScLETTER AdARCHAIC SAdBAdDAdEdHHAdIdKAdKHAdLAdMAdNAdNEdOdPAdQAdRAdSAdSEdTAdTEdTO",
  "dWAdYAcLOGOGRAM IMNdRMTcNUMBER EIGHTeHUNDREDfTHOUSANDeTHOUSANDdEIGHTY THOUSANDdFIFTYeTHOUSAND",
  "dFIVEeHUNDREDfTHOUSANDeTHOUSANDdFORTYeTHOUSANDdFOUReHUNDREDfTHOUSANDeTHOUSANDdNINEeHUNDRED",
  "fTHOUSANDeTHOUSANDdNINETY THOUSANDdONEeHUNDREDfTHOUSANDeTHOUSANDdSEVENeHUNDREDfTHOUSAND",
  "eTHOUSANDdSEVENTYeTHOUSANDdSIXeHUNDREDfTHOUSANDeTHOUSANDdSIXTYeTHOUSANDdTENeTHOUSANDdTHIRTY",
  "eTHOUSANDdTHREEeHUNDREDfTHOUSANDeTHOUSANDdTWENTYeTHOUSANDdTWOeHUNDREDfTHOUSANDeTHOUSAND",
  "bHIEROGLYPHIC LETTER AdBAdBA-2dDAdEdHHAdIdKAdKHAdLAdMAdNAdNA-2dNEdNE-2dOdPAdQAdRAdRA-2dSAdSA-2",
  "dSEdTAdTA-2dTEdTE-2dTOdWAdYAcSYMBOL VIDJdVIDJ-2aMERPERSONaMESSAGE WAITINGaMETRICAL BREVE",
  "bLONG OVER SHORTdTWO SHORTSbPENTASEMEbSHORT OVER LONGbTETRASEMEbTRISEMEbTWO SHORTS JOINED",
  "dOVER LONGaMETROaMIAO LETTER AHcARCHAIC MAdNAdNGAdZZAcBAcBRIcDAcDDAcDLHAcDLHYAcDZAcDZHAcDZYI",
  "cDZZAcFAcGAcGHAcGHHAcHAcHHAcKAcLAcLHAcLHYAcLYAcMAcMHAcNAcNASALIZATIONcNGAcNGHAcNHAcNNAcNNHA",
  "cNYAcNYHAcPAcPLAcQAcQGAcREFORMED TONE-1dTONE-2dTONE-4dTONE-5dTONE-6dTONE-8dTSHAcRTEcSAcSHAcSSA",
  "cSYIcTAcTEcTLHAcTLHYAcTONE-2cTONE-3cTONE-4cTONE-5cTONE-6cTONE-7cTONE-8cTSAcTSEcTSHAcTSSAcTTA",
  "cVAcVFAcWAcXAcYI DZHAdKAdNNAdPAdTAdTSAdTSHAdTTAcZAcZHAcZSAcZSHAcZZAcZZSAcZZSYAcZZYA",
  "bSIGN ASPIRATIONcCONSONANT MODIFIER BARcREFORMED ASPIRATIONdVOICINGbTONE ABOVEcBELOWcRIGHT",
  "cTOP RIGHTbVOWEL SIGN AdAAdAEdAEEdAHHdAIdANdANGdAUdEdEAdEIdENdENGdERdERRdIdIAdIANdIANGdIEdIG",
  "dIIdINGdIOdIONGdIUdNdNGdOdOERdOEYdOGdOOdOUdROUNDED EReERRdUdUAdUANdUANGdUEIdUIdUNGdUOGdUUdVWdW",
  "dWOdYdYIdYUIaMICR DASH SYMBOLbON US SYMBOLaMICRO SIGNaMICROBEaMICROPHONEaMICROSCOPEaMIDDLE DOT",
  "bTHIRD WHITE RIGHT POINTING INDEXaMIDLINE HORIZONTAL ELLIPSISaMILITARY HELMETbMEDALaMILKY WAY",
  "aMILL SIGNaMINIBUSaMINIDISCaMINIMIZEaMINUS SIGNcIN TRIANGLEcWITH COMMA ABOVEdDOT BELOW",
  "dFALLING DOTSdRISING DOTSbTILDEaMINUS-OR-PLUS SIGNaMINYaMIRRORbBALLaMMSPaMOBILE PHONEcOFF",
  "cWITH RIGHTWARDS ARROW AT LEFTaMODELSaMODERN PENTATHLONaMODI ABBREVIATION SIGNbDANDA",
  "bDIGIT EIGHTcFIVEcFOURcNINEcONEcSEVENcSIXcTHREEcTWOcZERObDOUBLE DANDAbLETTER AcAAcAIcAUcBAcBHA",
  "cCAcCHAcDAcDDAcDDHAcDHAcEcGAcGHAcHAcIcIIcJAcJHAcKAcKHAcLAcLLAcMAcNAcNGAcNNAcNYAcOcPAcPHAcRAcSA",
  "cSHAcSSAcTAcTHAcTTAcTTHAcUcUUcVAcVOCALIC LdLLdRdRRcYAbSIGN ANUSVARAcARDHACANDRAcHUVAcVIRAMA",
  "cVISARGAbVOWEL SIGN AAdAIdAUdEdIdIIdOdUdUUdVOCALIC LeLLeReRR",
  "aMODIFIER BREVE WITH INVERTED BREVEbLETTER ACUTE ACCENTcALVEOLAR CLICKcAPOSTROPHE",
  "cBEGIN HIGH TONEdLOW TONEcBILABIAL CLICKcCAPITAL AdAEdBdBARRED BdCdDdEdFdGdHeWITH STROKEdIdJdK",
  "dLdMdNdOdOUdPdQdRdREVERSED EeNdTdUdVdWcCENTRED LEFT HALF RINGdRIGHT HALF RING",
  "cCHINESE TONE YANG PINGfQUfRUfSHANGeYIN PINGfQUfRUfSHANGcCIRCUMFLEX ACCENTcCOLONcCROSS ACCENT",
  "cCYRILLIC ENdHARD SIGNdSOFT SIGNcDENTAL CLICKcDOT HORIZONTAL BARdSLASHdVERTICAL BAR",
  "cDOUBLE APOSTROPHEdPRIMEcDOWN ARROWHEADdTACKcEND HIGH TONEdLOW TONE",
  "cEXTRA-HIGH DOTTED LEFT-STEM TONE BAReTONE BARdLEFT-STEM TONE BARdTONE BAR",
  "cEXTRA-LOW DOTTED LEFT-STEM TONE BAReTONE BARdLEFT-STEM TONE BARdTONE BARcGEORGIAN NAR",
  "cGLOTTAL STOPeWITH STROKEcGRAVE ACCENTcHALF TRIANGULAR COLONcHIGH DOTTED LEFT-STEM TONE BAR",
  "eTONE BARdLEFT-STEM TONE BARdTONE BARcLATERAL CLICKcLEFT ARROWHEADdHALF RINGdTACK",
  "cLOW ACUTE ACCENTdCIRCUMFLEX ACCENTdDOTTED LEFT-STEM TONE BAReTONE BARdDOWN ARROWHEAD",
  "dGRAVE ACCENTdINVERTED EXCLAMATION MARKdLEFT ARROWeARROWHEADdLEFT-STEM TONE BARdMACRON",
  "dRIGHT ARROWHEADdRINGdTILDEdTONE BARdUP ARROWHEADdVERTICAL LINEcLOWER RIGHT CORNER ANGLE",
  "cMACRONcMID DOTTED LEFT-STEM TONE BAReTONE BARdLEFT-STEM TONE BARdTONE BAR",
  "cMIDDLE DOUBLE ACUTE ACCENTeGRAVE ACCENTdGRAVE ACCENTcMINUS SIGNcOPEN SHELFcPLUS SIGNcPRIME",
  "cRAISED COLONdDOWN ARROWdEXCLAMATION MARKdINVERTED EXCLAMATION MARKdUP ARROW",
  "cRETROFLEX CLICK WITH RETROFLEX HOOKcREVERSED COMMAdGLOTTAL STOPfWITH STROKEcRHOTIC HOOK",
  "cRIGHT ARROWHEADdHALF RINGdTACKcSHELFcSHORT EQUALS SIGNcSMALL AdAEdAINdALPHAdBeWITH HOOK",
  "dBARRED OdBETAdBOTTOM HALF OdCeWITH CURLdCAPITAL AAeBeGfWITH HOOKeHeIfWITH STROKEeINVERTED ReL",
  "fWITH BELTeNeOEeReUeYdCHIdCLOSED OMEGAeREVERSED OPEN EdDeWITH HOOKgAND TAILfTAILdDELTA",
  "dDEZH DIGRAPHdDOTLESS J WITH STROKEhAND HOOKdDZ DIGRAPHfWITH CURLgRETROFLEX HOOKdEdENGdESHdETH",
  "dEZHdFdFENG DIGRAPHdGeWITH HOOKdGAMMAdGREEK GAMMAePHIdHeWITH HOOKfSTROKEdHENGeWITH HOOK",
  "dI WITH STROKEdIOTAdJeWITH CROSSED-TAILdKdLeWITH BELTfINVERTED LAZY SfMIDDLE TILDE",
  "fPALATAL HOOKfRETROFLEX HOOKhAND BELTdLEZHeWITH RETROFLEX HOOKdLIGATURE OEdLS DIGRAPH",
  "dLZ DIGRAPHdMeWITH HOOKdN WITH LEFT HOOKfRETROFLEX HOOKdOeWITH STROKEdOPEN EeOdPdPHIdQdR",
  "eWITH FISHHOOKfTAILdRAMS HORNdREVERSED EeGLOTTAL STOPeOPEN EdSeWITH CURLfHOOKdSCHWAdSCRIPT G",
  "dSIDEWAYS UdTeWITH PALATAL HOOKfRETROFLEX HOOKdTC DIGRAPH WITH CURLdTESH DIGRAPHdTHETA",
  "dTOP HALF OdTS DIGRAPHfWITH RETROFLEX HOOKdTURNED AeAEeALPHAeHeIeMfWITH LONG LEGeOPEN EeR",
  "fWITH HOOKgLONG LEGiAND RETROFLEX HOOKeVeWeYfWITH BELTdUeBAReWITH LEFT HOOKdUPSILONdV",
  "eWITH HOOKfRIGHT HOOKdWdXdYdZeWITH CURLfRETROFLEX HOOKcSTRESS AND HIGH TONEeLOW TONE",
  "cSUPERSCRIPT HALF TRIANGULAR COLONdTRIANGULAR COLONcTRIANGULAR COLONcTURNED COMMAcUNASPIRATED",
  "cUP ARROWHEADdTACKcUScVERTICAL LINEcVOICINGcYANG DEPARTING TONE MARKcYIN DEPARTING TONE MARK",
  "aMODULO TWO SUMaMONEY BAGbWITH WINGSaMONEY-MOUTH FACEaMONGOLIAN BIRGAcWITH DOUBLE ORNAMENT",
  "dORNAMENTbCOLONbCOMMAbDIGIT EIGHTcFIVEcFOURcNINEcONEcSEVENcSIXcTHREEcTWOcZERO",
  "bDOUBLE BIRGA WITH ORNAMENTbELLIPSISbFOUR DOTSbFREE VARIATION SELECTOR FOUReONEeTHREEeTWO",
  "bFULL STOPbINVERTED BIRGAdWITH DOUBLE ORNAMENTbLETTER AcALI GALI AeAHeANUSVARA ONEeBALUDAeCA",
  "eDAeDAGALGAeDAMARUeDDAeHALF UfYAeIeINVERTED UBADAMAeKAeNGAeNNAePAePHAeSSAeTAeTHREE BALUDAeTTA",
  "eTTHAeUBADAMAeVISARGA ONEeZAeZHAcANGcBAcCHAdWITH TWO DOTScCHIcDAcEcEEcFAcGAcHAAcIcJAcKAcKHAcLA",
  "cLHAcMAcMANCHU ALI GALI BHAfCAfCYAfDDHAfDHAfGHAfJHAfLHAfNGAfSSAfTAfTTAfZAfZHAdFAdIdKAdRAdZHA",
  "cNAcOcOEcPAcQAcRAcSAcSHAcSIBE ANGdCHAdDAdEdFAdGAdGAAdHAdHAAdIdIYdJAdKAdPAdRAAdSHAdTAdTSAdUdUE",
  "dZAdZHAcTAcTODO ALI GALI TAfZHAdANGdBAdCHAdDAdDZAdEdGAdGAAdHAAdIdJAdJIAdKAdLONG VOWEL SIGNdMA",
  "dNIAdOdOEdPAdQAdTAdTSAdUdUEdWAdYAcTSAcUcUEcWAcYAcZAcZHIcZRAbMANCHU COMMAcFULL STOPbNIRUGU",
  "bROTATED BIRGAdWITH DOUBLE ORNAMENTeORNAMENTbSIBE SYLLABLE BOUNDARY MARKERbSWIRL BIRGA",
  "dWITH DOUBLE ORNAMENTeORNAMENTbTODO SOFT HYPHENbTRIPLE BIRGA WITH ORNAMENT",
  "bTURNED SWIRL BIRGA WITH DOUBLE ORNAMENTbVOWEL SEPARATORaMONKEYbFACEaMONOGRAM FOR EARTHcYANG",
  "cYINaMONORAILaMONOSTABLE SYMBOLaMOOD BUBBLEaMOON CAKEbVIEWING CEREMONYaMOSQUEaMOSQUITO",
  "aMOTHER CHRISTMASaMOTOR BOATbSCOOTERaMOTORIZED WHEELCHAIRaMOTORWAYaMOUNT FUJIaMOUNTAIN",
  "bBICYCLISTbCABLEWAYbRAILWAYaMOUSEbFACEbTRAPaMOUTHaMOVIE CAMERAaMOYAIaMRO DANDAbDIGIT EIGHT",
  "cFIVEcFOURcNINEcONEcSEVENcSIXcTHREEcTWOcZERObDOUBLE DANDAbLETTER AcBAcCHUcDAcDAIcEcEAcHAIcHAO",
  "cKEAAEcKHAIcKOcLAcLANcMAEMcMIMcNGIcNINcOcOLcOOcPAcPHIcRIcROcSHIcTAcTEKcTHEAcWAcYO",
  "aMUCH GREATER-THANbLESS-THANaMULTANI LETTER AcBAcBHAcCAcCHAcDAcDDAcDDDAcDDHAcDHAcEcGAcGHAcHAcI",
  "cJAcJJAcKAcKHAcLAcMAcNAcNNAcNYAcPAcPHAcRAcRHAcRRAcSAcTAcTHAcTTAcTTHAcUcVAcYAbSECTION MARK",
  "aMULTIMAPaMULTIPLE MUSICAL NOTESaMULTIPLICATION SIGNcIN DOUBLE CIRCLEdLEFT HALF CIRCLE",
  "dRIGHT HALF CIRCLEdTRIANGLEcWITH DOT ABOVEdUNDERBARbXaMULTISETbMULTIPLICATIONbUNIONaMUSHROOM",
  "aMUSIC FLAT SIGNbNATURAL SIGNbSHARP SIGNaMUSICAL KEYBOARDcWITH JACKSbNOTEbSCORE",
  "bSYMBOL ARPEGGIATO DOWNdUPcBEGIN BEAMdPHRASEdSLURdTIEcBRACEcBRACKETcBREATH MARKcBREVEcBREVIS",
  "dRESTcC CLEFcCAESURAcCIRCLE X NOTEHEADcCLIMACUScCLIVIScCLUSTER NOTEHEAD BLACKeWHITEcCODA",
  "cCOMBINING ACCENTdACCENT-STACCATOdAUGMENTATION DOTdBENDdDOITdDOUBLE TONGUEdDOWN BOWdFLAG-1",
  "dFLAG-2dFLAG-3dFLAG-4dFLAG-5dFLIPdHARMONICdLOUREdMARCATOdMARCATO-STACCATOdRIPdSMEAR",
  "dSNAP PIZZICATOdSPRECHGESANG STEMdSTACCATISSIMOdSTACCATOdSTEMdTENUTOdTREMOLO-1dTREMOLO-2",
  "dTREMOLO-3dTRIPLE TONGUEdUP BOWcCOMMON TIMEcCRESCENDOcCROIXcCUT TIMEcDA CAPOcDAL SEGNOcDAMP",
  "dALLcDASHED BARLINEcDECRESCENDOcDEGREE SLASHcDOUBLE BARLINEdFLATdSHARPcDRUM CLEF-1dCLEF-2",
  "cEIGHTH NOTEdRESTcEND BEAMdOF STIMMEdPHRASEdSLURdTIEcF CLEFeOTTAVA ALTAfBASSAcFERMATAdBELOW",
  "cFINAL BARLINEcFINGERED TREMOLO-1dTREMOLO-2dTREMOLO-3cFIVE-LINE STAFFcFLAT DOWNdUPcFORTE",
  "cFOUR-LINE STAFFcFOUR-STRING FRETBOARDcFUSA BLACKdWHITEcG CLEFeOTTAVA ALTAfBASSA",
  "cGLISSANDO DOWNdUPcGRACE NOTE NO SLASHeSLASHcGREGORIAN C CLEFdF CLEFcHALF NOTEdPEDAL MARKdREST",
  "cHAUPTSTIMMEcINVERTED TURNcKIEVAN C CLEFdEIGHTH NOTE STEM DOWNgUPdEND OF PIECEdFINAL NOTE",
  "dFLAT SIGNdHALF NOTEdQUARTER NOTE STEM DOWNgUPdRECITATIVE MARKdWHOLE NOTEcKORON",
  "cLEFT REPEAT SIGNcLONGAdIMPERFECTA RESTdPERFECTA RESTcMAXIMAcMEZZOcMINIMAdBLACKdREST",
  "cMOON NOTEHEAD BLACKeWHITEcMULTI RESTcMULTIPLE MEASURE RESTcNATURAL DOWNdUPcNEBENSTIMME",
  "cNOTEHEAD BLACKcNULL NOTEHEADcONE HUNDRED TWENTY-EIGHTH NOTEfRESTcONE-LINE STAFF",
  "cORNAMENT STROKE-1dSTROKE-10dSTROKE-11dSTROKE-2dSTROKE-3dSTROKE-4dSTROKE-5dSTROKE-6dSTROKE-7",
  "dSTROKE-8dSTROKE-9cOTTAVA ALTAdBASSAcPARENTHESIS NOTEHEADcPEDAL MARKdUP MARKcPES SUBPUNCTIS",
  "cPIANOcPLUS NOTEHEADcPODATUScPORRECTUSdFLEXUScQUARTER NOTEdRESTdTONE FLATeSHARP",
  "cQUINDICESIMA ALTAdBASSAcREPEAT DOTScREPEATED FIGURE-1dFIGURE-2dFIGURE-3cREVERSE FINAL BARLINE",
  "cRIGHT REPEAT SIGNcRINFORZANDOcSCANDICUSdFLEXUScSEGNOcSEMIBREVIS BLACKdRESTdWHITE",
  "cSEMIMINIMA BLACKdRESTdWHITEcSHARP DOWNdUPcSHORT BARLINEcSINGLE BARLINEcSIX-LINE STAFF",
  "cSIX-STRING FRETBOARDcSIXTEENTH NOTEdRESTcSIXTY-FOURTH NOTEdRESTcSORIcSQUARE BdNOTEHEAD BLACK",
  "eWHITEcSUBITOcTEMPUS IMPERFECTUM CUM PROLATIONE IMPERFECTAhDIMINUTION-1hDIMINUTION-2",
  "hDIMINUTION-3gPERFECTAdPERFECTUM CUM PROLATIONE IMPERFECTAgPERFECTAhDIMINUTION-1",
  "cTHIRTY-SECOND NOTEdRESTcTHREE-LINE STAFFcTORCULUSdRESUPINUScTRcTRIANGLE NOTEHEAD DOWN BLACK",
  "fWHITEeLEFT BLACKfWHITEeRIGHT BLACKfWHITEeUP BLACKfRIGHT BLACKgWHITEfWHITE",
  "cTRIANGLE-ROUND NOTEHEAD DOWN BLACKfWHITEcTURNdSLASHdUPcTWO-LINE STAFFcVIRGAcVOID NOTEHEAD",
  "cWHOLE NOTEdRESTcWITH FINGERNAILScX NOTEHEADcZaMVSaMWaMYANMAR CONSONANT SIGN MEDIAL HAeRAeWA",
  "eYAdMON MEDIAL LAfMAfNAdSHAN MEDIAL WAbDIGIT EIGHTcFIVEcFOURcNINEcONEcSEVENcSIXcTHREEcTWOcZERO",
  "bLETTER AcAITON RAcAUcBAcBHAcCAcCHAcDAcDDAcDDHAcDHAcEcEASTERN PWO KAREN GHWAfNNAfYWAcGAcGHA",
  "cGREAT SAcHAcIcIIcJAcJHAcKAcKHAcKHAMTI CAdCHAdDDAdDDHAdDHAdFAdGAdHAdHHAdJAdJHAdLLAdNAdNYAdRA",
  "dSAdTTAdTTHAdXAdZAcLAcLLAcMAcMON BBAdBBEdEdJHAdNGAcNAcNGAcNNAcNNYAcNYAcOcPAcPHAcRA",
  "cRUMAI PALAUNG FAcSAcSGAW KAREN SHAcSHAcSHAN AdBAdBHAdCAdCHAdDAdFAdGAdGHAdHAdJHAdKAdKHAdNAdNNA",
  "dNYAdPHAdTHAdZAcSHWE PALAUNG CHAeSHAcSSAcTAcTAI LAING BAeBHAeDAeDDAeDDHAeDHAeFAeGAeGHAeJAeJHA",
  "eLLAeNNAeNYAcTHAcTTAcTTHAcUcUUcVOCALIC LdLLdRdRRcWAcWESTERN PWO KAREN PWAfTHAcYA",
  "bLOGOGRAM KHAMTI HMdOAYdQNbMODIFIER LETTER KHAMTI REDUPLICATIONdSHAN REDUPLICATION",
  "bSHAN DIGIT EIGHTdFIVEdFOURdNINEdONEdSEVENdSIXdTHREEdTWOdZERObSIGN ANUSVARAcASATcDOT BELOW",
  "cKHAMTI TONE-1dTONE-3cLITTLE SECTIONcPAO KAREN TONEcRUMAI PALAUNG TONE-5cSECTION",
  "cSHAN COUNCIL EMPHATIC TONEeTONE-2eTONE-3dSAWdTONE-2dTONE-3dTONE-5dTONE-6cTAI LAING TONE-2",
  "eTONE-5cVIRAMAcVISARGAcWESTERN PWO KAREN TONE-1fTONE-2fTONE-3fTONE-4fTONE-5",
  "bSYMBOL AFOREMENTIONEDcAITON EXCLAMATIONdONEdTWOcCOMPLETEDcGENITIVEcLOCATIVEcSHAN EXCLAMATION",
  "dONEbTAI LAING DIGIT EIGHTeFIVEeFOUReNINEeONEeSEVENeSIXeTHREEeTWOeZERO",
  "bTONE MARK SGAW KAREN HATHIfKE PHObVOWEL SIGN AAdAIdAITON AeAIdEeABOVEdGEBA KAREN IdIdII",
  "dKAYAH EEeOEeUdMON IIeOdSGAW KAREN EUdSHAN AAeEfABOVEeFINAL YdTALL AAdUdUUdVOCALIC LeLLeReRR",
  "dWESTERN PWO KAREN EUgUEaN-ARY CIRCLED DOT OPERATORcPLUS OPERATORcTIMES OPERATORbCOPRODUCT",
  "bINTERSECTIONbLOGICAL ANDcORbPRODUCTbSQUARE INTERSECTION OPERATORcUNION OPERATORbSUMMATION",
  "bTIMES OPERATORbUNIONcOPERATOR WITH DOTePLUSbWHITE VERTICAL BAR",
  "aNABATAEAN CRUCIFORM NUMBER FOURbLETTER ALEPHcAYINcBETHcDALETHcFINAL ALEPHdBETHdHEdKAPHdLAMEDH",
  "dMEMdNUNdSHINdYODHcGIMELcHEcHETHcKAPHcLAMEDHcMEMcNUNcPEcQOPHcRESHcSADHEcSAMEKHcSHINcTAWcTETH",
  "cWAWcYODHcZAYINbNUMBER FIVEcFOURcONEdHUNDREDcTENcTHREEcTWENTYcTWOaNABLAaNAIL POLISHaNAIRA SIGN",
  "aNAKaNAME BADGEaNANDaNANDINAGARI HEADSTROKEbLETTER AcAAcAIcAUcBAcBHAcCAcCHAcDAcDDAcDDHAcDHAcE",
  "cGAcGHAcHAcIcIIcJAcJHAcKAcKHAcLAcLLAcMAcNAcNGAcNNAcNYAcOcPAcPHAcRAcRRAcSAcSHAcSSAcTAcTHAcTTA",
  "cTTHAcUcUUcVAcVOCALIC RdRRcYAbSIGN ANUSVARAcAVAGRAHAcSIDDHAMcVIRAMAcVISARGAbVOWEL SIGN AAdAI",
  "dAUdEdIdIIdOdPRISHTHAMATRA EdUdUUdVOCALIC ReRRaNARROW NO-BREAK SPACEaNATIONAL DIGIT SHAPES",
  "bPARKaNAUSEATED FACEaNAZAR AMULETaNBHaNBSPaNECKTIE",
  "aNEGATED DOUBLE VERTICAL BAR DOUBLE RIGHT TURNSTILEaNEGATIVE ACKNOWLEDGEbCIRCLED DIGIT ZERO",
  "cLATIN CAPITAL LETTER AfBfCfDfEfFfGfHfIfJfKfLfMfNfOfPfQfRfSfTfUfVfWfXfYfZcNUMBER EIGHTEEN",
  "dELEVENdFIFTEENdFOURTEENdNINETEENdSEVENTEENdSIXTEENdTHIRTEENdTWELVEdTWENTYcSQUAREcTRIANGLE",
  "bDIAGONAL CROSScDIAMONDcMIDDLE RIGHT TO LOWER CENTREbSQUARED ABcCROSS MARKcIC",
  "cLATIN CAPITAL LETTER AfBfCfDfEfFfGfHfIfJfKfLfMfNfOfPfQfRfSfTfUfVfWfXfYfZcPAcQUESTION MARKcSA",
  "cWCaNEITHER A SUBSET OF NOR EQUAL TOcSUPERSET OF NOR EQUAL TO",
  "bAPPROXIMATELY NOR ACTUALLY EQUAL TObGREATER-THAN NOR EQUAL TOdEQUIVALENT TOdLESS-THAN",
  "bLESS-THAN NOR EQUAL TOdEQUIVALENT TOdGREATER-THANaNELaNEPTUNEbFORM TWOaNERD FACEaNESSUS",
  "aNEST WITH EGGSaNESTING DOLLSaNEUTERaNEUTRAL CHESS BISHOPdROTATED NINETY DEGREES",
  "eTWO HUNDRED SEVENTY DEGREEScEQUIHOPPERdROTATED NINETY DEGREEScKINGdROTATED NINETY DEGREES",
  "eTWO HUNDRED SEVENTY DEGREEScKNIGHTdROTATED FORTY-FIVE DEGREESeNINETY DEGREES",
  "eONE HUNDRED THIRTY-FIVE DEGREESeTHREE HUNDRED FIFTEEN DEGREESeTWO HUNDRED SEVENTY DEGREES",
  "gTWENTY-FIVE DEGREEScPAWNdROTATED NINETY DEGREESeTWO HUNDRED SEVENTY DEGREEScQUEEN",
  "dROTATED NINETY DEGREESeTWO HUNDRED SEVENTY DEGREEScROOKdROTATED NINETY DEGREES",
  "eTWO HUNDRED SEVENTY DEGREEScTURNED BISHOPdKINGdKNIGHTdPAWNdQUEENdROOKbFACEaNEW LINE",
  "bMOON SYMBOLcWITH FACEbSHEQEL SIGNbTAI LUE DIGIT EIGHTeFIVEeFOUReNINEeONEeSEVENeSIXeTHREEeTWO",
  "eZEROdLETTER FINAL BfDfKfMfNfNGfVeHIGH BAfDAfFAfHAfKAfKVAfLAfMAfNAfNGAfPAfPHAfQAfSAfSUAfTAfTHA",
  "fTSAfVAfXAfXVAfYAeLOW BAfDAfFAfHAfKAfKVAfLAfMAfNAfNGAfPAfPHAfQAfSAfSUAfTAfTHAfTSAfVAfXAfXVAfYA",
  "dSIGN LAEeLAEVdTHAM DIGIT ONEdTONE MARK-1eMARK-2dVOWEL SIGN AAfAAYfAEfAYfEfIIfIYfOfOAfOAYfOYfU",
  "fUEfUEYfUUfUYfVOWEL SHORTENERaNEWA ABBREVIATION SIGNbCOMMAbDANDAbDIGIT EIGHTcFIVEcFOURcNINE",
  "cONEcSEVENcSIXcTHREEcTWOcZERObDOUBLE COMMAcDANDAbGAP FILLERbINSERTION SIGNbLETTER AcAAcAIcAU",
  "cBAcBHAcCAcCHAcDAcDDAcDDHAcDHAcEcGAcGHAcHAcIcIIcJAcJHAcKAcKHAcLAcLHAcMAcMHAcNAcNGAcNGHAcNHA",
  "cNNAcNYAcNYHAcOcPAcPHAcRAcRHAcSAcSHAcSSAcTAcTHAcTTAcTTHAcUcUUcVEDIC ANUSVARAcVOCALIC LdLLdRdRR",
  "cWAcYAbOMbPLACEHOLDER MARKbSANDHI MARKbSIDDHIbSIGN ANUSVARAcAVAGRAHAcCANDRABINDU",
  "cFINAL ANUSVARAcJIHVAMULIYAcNUKTAcUPADHMANIYAcVIRAMAcVISARGAbVOWEL SIGN AAdAIdAUdEdIdIIdOdUdUU",
  "dVOCALIC LeLLeReRRaNEWLINE LEFTbRIGHTaNEWSPAPERaNEXT LINEbPAGEaNIGHT WITH STARSaNINJA",
  "aNKO COMBINING DOUBLE DOT ABOVEcLONG DESCENDING TONEdHIGH TONEdLOW TONEdRISING TONE",
  "cNASALIZATION MARKcSHORT HIGH TONEdLOW TONEdRISING TONEbCOMMAbDANTAYALANbDIGIT EIGHTcFIVEcFOUR",
  "cNINEcONEcSEVENcSIXcTHREEcTWOcZERObDOROME SIGNbEXCLAMATION MARKbHIGH TONE APOSTROPHE",
  "bLAJANYALANbLETTER AcBAcCHAcDAcDAGBASINNAcEcEEcFAcGBAcHAcIcJAcJONA CHAdJAdRAcKAcLAcMAcNcNA",
  "dWOLOSOcNYAdWOLOSOcOcOOcPAcRAcRRAcSAcTAcUcWAcYAbLOW TONE APOSTROPHEbSYMBOL GBAKURUNEN",
  "cOO DENNENbTAMAN SIGNaNLaNNBSPaNO BICYCLESbBREAK HEREbENTRYcSIGNbMOBILE PHONES",
  "bONE UNDER EIGHTEEN SYMBOLbPEDESTRIANSbPIRACYbSMOKING SYMBOLaNO-BREAK SPACE",
  "aNOMINAL DIGIT SHAPESaNOMISMA SIGNaNON-BREAKING HYPHENaNON-POTABLE WATER SYMBOLaNONFORKINGaNOR",
  "aNORDIC MARK SIGNaNORMAL SUBGROUP OFdOR EQUAL TOaNORTH EAST AND SOUTH WEST ARROWcARROW",
  "dAND SOUTH EAST ARROWdCROSSING NORTH WEST ARROWeSOUTH EAST ARROWdWITH HOOKcBLACK ARROW",
  "cDOUBLE ARROWcPOINTING BUDdLEAFdVINE LEAFcSANS-SERIF ARROWcTRIANGLE-HEADED ARROWeTO BAR",
  "cWHITE ARROWbINDIC FRACTION ONE EIGHTHeHALFeQUARTEReSIXTEENTHdTHREE QUARTERSeSIXTEENTHS",
  "cPLACEHOLDER MARKcQUANTITY MARKcQUARTER MARKcRUPEE MARKbWEST AND SOUTH EAST ARROWcARROW",
  "dAND NORTH EAST ARROWdCROSSING NORTH EAST ARROWdTO CORNEReLONG BARdWITH HOOKcBLACK ARROW",
  "cDOUBLE ARROWcPOINTING BUDdLEAFdVINE LEAFcSANS-SERIF ARROWcTRIANGLE-HEADED ARROWeTO BAR",
  "cWHITE ARROWaNORTHEAST-POINTING AIRPLANEaNOSEaNOT A SUBSET OFcSUPERSET OFbALMOST EQUAL TO",
  "bAN ELEMENT OFbASYMPTOTICALLY EQUAL TObCHECK MARKbEQUAL TObEQUIVALENT TObGREATER-THAN",
  "bIDENTICAL TObLESS-THANbNORMAL SUBGROUP OFeOR EQUAL TObPARALLEL TObSIGN",
  "bSQUARE IMAGE OF OR EQUAL TOcORIGINAL OF OR EQUAL TObTILDEbTRUE",
  "aNOTCHED LEFT SEMICIRCLE WITH THREE DOTSbLOWER RIGHT-SHADOWED WHITE RIGHTWARDS ARROW",
  "bRIGHT SEMICIRCLE WITH THREE DOTSbUPPER RIGHT-SHADOWED WHITE RIGHTWARDS ARROWaNOTEbPADbPAGE",
  "aNOTEBOOKbWITH DECORATIVE COVERaNULaNULLaNUMBER EIGHTEEN FULL STOPbELEVEN FULL STOP",
  "bFIFTEEN FULL STOPbFOURTEEN FULL STOPbNINETEEN FULL STOPbSEVENTEEN FULL STOPbSIGN",
  "bSIXTEEN FULL STOPbTEN FULL STOPbTHIRTEEN FULL STOPbTWELVE FULL STOPbTWENTY FULL STOP",
  "aNUMERO SIGNaNUSHU ITERATION MARKaNUT AND BOLTaNYIAKENG PUACHUE HMONG CIRCLED CAdDIGIT EIGHT",
  "eFIVEeFOUReNINEeONEeSEVENeSIXeTHREEeTWOeZEROdLETTER AeAAeCAeDAeDLAeEeEEeFAeGAeHAeHAHeIeKAeLA",
  "eMAeMLAeNAeNCAeNKAeNPAeNPLAeNQAeNRAeNTAeNTSAeNTXAeNYAeOeOOePAePLAeQAeRAeRRAeSAeTAeTSAeTXAeUeVA",
  "eWeXAeXYAeYAeZAdLOGOGRAM NYAJdSIGN FOR ANIMALfINVERTEBRATEfLOCATIONfPERSONfTHINGeXW XW",
  "dSYLLABLE LENGTHENERdTONE-BdTONE-DdTONE-GdTONE-JdTONE-MdTONE-SdTONE-V",
  "aOBJECT REPLACEMENT CHARACTERaOBLIQUE ANGLE OPENING DOWNdUPbHYPHENaOBSERVER EYE SYMBOL",
  "aOCR AMOUNT OF CHECKbBELT BUCKLEbBOW TIEbBRANCH BANK IDENTIFICATIONbCHAIR",
  "bCUSTOMER ACCOUNT NUMBERbDASHbDOUBLE BACKSLASHbFORKbHOOKbINVERTED FORKaOCTAGONAL SIGNaOCTOPUS",
  "aODENaOFFICE BUILDINGaOGHAM FEATHER MARKbLETTER AILMcBEITHcCEIRTcCOLLcDAIRcEABHADHcEADHADH",
  "cEAMHANCHOLLcFEARNcGORTcIFINcIODHADHcLUIScMUINcNGEADALcNIONcONNcORcPEITHcRUIScSAILcSTRAIF",
  "cTINNEcUATHcUILLEANNcURbREVERSED FEATHER MARKbSPACE MARKaOGONEKaOHM SIGNaOIL DRUMaOK HAND SIGN",
  "aOL CHIKI AHADcDIGIT EIGHTdFIVEdFOURdNINEdONEdSEVENdSIXdTHREEdTWOdZEROcGAAHLAA TTUDDAAG",
  "cLETTER AAJdAAKdAAMdAAWdAGdALdANGdATdEDDdENdEPdERRdIHdINYdIRdISdLAdLAAdLEdLIdLOdLUdOBdOHdOTT",
  "dOVdUCdUDdUNNdUYcMU TTUDDAGcMU-GAAHLAA TTUDDAAGcPHAARKAAcPUNCTUATION DOUBLE MUCAADdMUCAAD",
  "cRELAAaOLD CHINESE HOOK MARKcITERATION MARKbHUNGARIAN CAPITAL LETTER AeAAeAKeAMBeANDeCLOSE EeE",
  "eEBeECeECHeECSeEDeEEeEFeEGeEGYeEHeEJeEKeELeELYeEMeEMPeENeENCeENTeENT-SHAPED SIGNeENYeEPeEReES",
  "eESZeETeETYeEVeEZeEZSeIeIIeNIKOLSBURG OEfUEeOeOEEeOOeRUDIMENTA OEfUEeSHORT EReUeUNKeUSeUU",
  "cNUMBER FIFTYdFIVEdONEeHUNDREDeTHOUSANDdTENcSMALL LETTER AeAAeAKeAMBeANDeCLOSE EeEeEBeECeECH",
  "eECSeEDeEEeEFeEGeEGYeEHeEJeEKeELeELYeEMeEMPeENeENCeENTeENT-SHAPED SIGNeENYeEPeEReESeESZeETeETY",
  "eEVeEZeEZSeIeIIeNIKOLSBURG OEfUEeOeOEEeOOeRUDIMENTA OEfUEeSHORT EReUeUNKeUSeUUbITALIC LETTER A",
  "dBEdCHEdDEdEdEFdEKSdELdEMdENdERdERSdESdESHdESSdHEdIdIIdKAdKEdKHEdKUdNORTHERN TSEdOdPEdPHEdSHE",
  "dSOUTHERN TSEdTEdTHEdUdUUdVEdYEdZEcNUMERAL FIFTYdFIVEdONEdTENbKEYbNORTH ARABIAN LETTER AIN",
  "eALEFeBEHeDADeDALeES-1eES-2eES-3eFEHeGEEMeGHAINeHAHeHEHeKAFeKHAHeLAMeMEEMeNOONeQAFeREHeSADeTAH",
  "eTEHeTHALeTHEHeWAWeYEHeZAHeZAINdNUMBER ONEeTENeTWENTYbPERMIC LETTER ANdBURdCHERYdDOIdDZHOI",
  "dDZITAdEdEFdGAIdHAdIdIAdIEdKOKEdLEIdMENOEdNENOEdOdOOdPEEIdREIdSHCHOOIdSHOOIdSIIdTAIdTSIUdUdVER",
  "dVOOIdYAdYATdYERdYERIdYERUdYRYdYUdZATAdZHOIbPERSIAN NUMBER HUNDREDdONEdTENdTWENTYdTWOcSIGN A",
  "dAURAMAZDAAdAURAMAZDAA-2dAURAMAZDAAHAdBAdBAGAdBUUMISHdCAdDAdDAHYAAUSHdDAHYAAUSH-2dDIdDUdFAdGA",
  "dGUdHAdIdJAdJIdKAdKUdLAdMAdMIdMUdNAdNUdPAdRAdRUdSAdSHAdSSAdTAdTHAdTUdUdVAdVIdXAdXSHAAYATHIYA",
  "dYAdZAcWORD DIVIDERbPERSONAL COMPUTERbSOGDIAN FRACTION ONE HALFcLETTER ALEPHdALTERNATE AYIN",
  "dAYINdBETHdFINAL ALEPHeBETHeHEeNUNfWITH VERTICAL TAILeSADHEfWITH VERTICAL TAILeTAW",
  "fWITH VERTICAL TAILdGIMELdHEdHETHdKAPHdLAMEDHdMEMdNUNdPEdRESH-AYIN-DALETHdSADHEdSAMEKHdSHIN",
  "dTAWdWAWdYODHdZAYINcLIGATURE AYIN-DALETHcNUMBER FIVEdFOURdONEeHUNDREDdTENdTHIRTYdTHREEdTWENTY",
  "dTWObSOUTH ARABIAN LETTER ALEFeAYNeBETHeDALETHeDHADHEeDHALETHeFEeGHAYNeGIMELeHEeHETHeKAPH",
  "eKHETHeLAMEDHeMEMeNUNeQOPHeRESHeSADHEeSAMEKHeSATeSHINeTAWeTETHeTHAWeTHETHeWAWeYODHeZAYN",
  "dNUMBER FIFTYeONEdNUMERIC INDICATORbTURKIC LETTER ORKHON AeABeADeAEBeAEDeAEGeAEKeAELeAENeAER",
  "eAESeAETeAEYeAGeALeANeAQeAReASeASHeATeAYeBASHeECeELTeEMeENCeENGeENTeENYeEPeESHeEZeIeICeIQeOeOE",
  "eOEKeOPeOQeOTdYENISEI AeABeADeAEeAEBeAEGeAEKeAENeAENGeAETeAEYeAGeALeANGeAQeAReASHeATeAYeEeEC",
  "eENCeENTeENYeESHeEZeIeIQeOEeOEKeOQbUYGHUR COMBINING DOT ABOVEeBELOWdTWO DOTS ABOVEfBELOW",
  "cLETTER ALEPHdBETHdFINAL HETHdGIMEL-HETHdKAPHdLAMEDHdLESHdMEMdNUNdPEdRESHdSADHEdSAMEKHdSHIN",
  "dTAWdWAWdYODHdZAYINcPUNCTUATION BARdFOUR DOTSdTWO BARSeDOTSaOLDER ADULTbMANbWOMANaOLIVE",
  "aOM SYMBOLaON WITH EXCLAMATION MARK WITH LEFT RIGHT ARROW ABOVEaONCOMING AUTOMOBILEbBUS",
  "bFIRE ENGINEbPOLICE CARbTAXIaONE BUTTON MOUSEbDOT LEADERcOVER TWO DOTS PUNCTUATION",
  "aONE-PIECE SWIMSUITaONIONaOPEN BOOKbBOXbCENTRE ASTERISKcBLACK STARcCROSS",
  "cTEARDROP-SPOKED ASTERISKbFILE FOLDERbFOLDERbHANDS SIGNbLOCKbMAILBOX WITH LOWERED FLAG",
  "dRAISED FLAGbSUBSETbSUPERSETaOPEN-CIRCUIT-OUTPUT H-TYPE SYMBOLbL-TYPE SYMBOL",
  "aOPEN-OUTLINED RIGHTWARDS ARROWaOPERATING SYSTEM COMMANDaOPHIUCHUSaOPPOSITIONaOPTICAL DISC",
  "cICONaOPTION KEYaOR WITH DOT INSIDEaORANGE BOOKbHEARTaORANGUTANaORIGINAL OF",
  "aORIYA AI LENGTH MARKbAU LENGTH MARKbDIGIT EIGHTcFIVEcFOURcNINEcONEcSEVENcSIXcTHREEcTWOcZERO",
  "bFRACTION ONE EIGHTHdHALFdQUARTERdSIXTEENTHcTHREE QUARTERSdSIXTEENTHSbISSHARbLETTER AcAAcAIcAU",
  "cBAcBHAcCAcCHAcDAcDDAcDDHAcDHAcEcGAcGHAcHAcIcIIcJAcJHAcKAcKHAcLAcLLAcMAcNAcNGAcNNAcNYAcOcPA",
  "cPHAcRAcRHAcRRAcSAcSHAcSSAcTAcTHAcTTAcTTHAcUcUUcVAcVOCALIC LdLLdRdRRcWAcYAcYYAbSIGN ANUSVARA",
  "cAVAGRAHAcCANDRABINDUcNUKTAcOVERLINEcVIRAMAcVISARGAbVOWEL SIGN AAdAIdAUdEdIdIIdOdUdUU",
  "dVOCALIC LeLLeReRRaORNATE LEFT PARENTHESISbRIGHT PARENTHESISaORTHODOX CROSS",
  "aOSAGE CAPITAL LETTER AdAHdAIdAINdBRAdCHAdDHAdEdEHCHAdEHKAdEHPAdEHTAdEHTSAdEINdGHAdHAdHYAdIdKA",
  "dKHAdKYAdLAdMAdNAdOdOINdPAdSAdSHAdTAdTSAdTSHAdUdWAdZAdZHAbSMALL LETTER AdAHdAIdAINdBRAdCHAdDHA",
  "dEdEHCHAdEHKAdEHPAdEHTAdEHTSAdEINdGHAdHAdHYAdIdKAdKHAdKYAdLAdMAdNAdOdOINdPAdSAdSHAdTAdTSAdTSHA",
  "dUdWAdZAdZHAaOSCaOSMANYA DIGIT EIGHTcFIVEcFOURcNINEcONEcSEVENcSIXcTHREEcTWOcZERObLETTER AcAA",
  "cALEFcBAcCAYNcDEELcDHAcEcEEcFAcGAcHAcIcJAcKAAFcKHAcLAANcMIINcNUUNcOcOOcQAAFcRAcSAcSHIINcTAcU",
  "cWAWcXAcYAaOTTERaOTTOMAN SIYAQ ALTERNATE NUMBER EIGHTeFIVEeFOURfHUNDREDeNINEeSEVENeSIXfHUNDRED",
  "eTENfTHOUSANDeTHREEeTWOfTHOUSANDcFRACTION ONE HALFeSIXTHcMARRATANcNUMBER EIGHTeHUNDRED",
  "eTHOUSANDdEIGHTYeTHOUSANDdFIFTYeTHOUSANDdFIVEeHUNDREDeTHOUSANDdFORTYeTHOUSANDdFOUReHUNDRED",
  "eTHOUSANDdNINEeHUNDREDeTHOUSANDdNINETYeTHOUSANDdONEeHUNDREDeTHOUSANDdSEVENeHUNDREDeTHOUSAND",
  "dSEVENTYeTHOUSANDdSIXeHUNDREDeTHOUSANDdSIXTYeTHOUSANDdTENeTHOUSANDdTHIRTYeTHOUSANDdTHREE",
  "eHUNDREDeTHOUSANDdTWENTYeTHOUSANDdTWOeHUNDREDeTHOUSANDaOUNCE SIGNaOUTBOX TRAY",
  "aOUTLINED BLACK STARbGREEK CROSSbLATIN CROSSbWHITE STARaOVERHEATED FACEaOVERLAP",
  "aOVERLAPPING BLACK SQUARESbWHITE AND BLACK SQUAREScSQUARESaOVERLINEaOWLaOXaOYSTERaPACKAGEaPAD",
  "aPADDING CHARACTERaPAGEbFACING UPbWITH CIRCLED TEXTcCURLaPAGERaPAGESaPAGODA",
  "aPAHAWH HMONG CLAN SIGN FAJeHAMeHAWJeKHABeKOOeKWMeLAUJeLISeMUASePHABeTHOJeTSABeTSHEEJeTSWBeVAJ",
  "eVWJeXYOOJeYAJeYEEGcCONSONANT AUdCAUdCHAUdHAUdHLAUdHNAUdLAUdMAUdNAUdNCHAUdNKAUdNLAUdNTHAU",
  "dNTSAUdPLHAUdQHAUdRAUdVAUdXAUdYAUcDIGIT EIGHTdFIVEdFOURdNINEdONEdSEVENdSIXdTHREEdTWOdZERO",
  "cMARK CIM HOMeKESeKHAVeSOeSUAMeTAUMeTUBcNUMBER HUNDRED MILLIONSdHUNDREDSdMILLIONSdTEN BILLIONS",
  "eTHOUSANDSdTENSdTRILLIONScSIGN AVdCIM CHEEMeCUAM TSHOOJeHAIS LUS NTOG NTOGeNRES TOSePUB DAWB",
  "eTSOV ROGeTXWVfCHWVdHLIdHNUBdIB YAMdLOSdMEEJ SUABeTSEEBdMUSdNQIGdNTUJdTAUdTHIRD-STAGE HLI",
  "dTXHEEJ CEEVdVOS FEEMeLUBeNRUAeSEEVeTHIABeTHOMeTSHAB CEEBdXAUSdXIABdXYEEM FAIBeNTXIVeRHOeTOV",
  "dXYOOdZWJ THAJcVOWEL KAABdKAAVdKABdKAIBdKAIVdKAUBdKAUVdKAVdKAWBdKAWVdKEBdKEEBdKEEVdKEVdKIAB",
  "dKIAVdKIBdKIVdKOBdKOOBdKOOVdKOVdKUABdKUAVdKUBdKUVdKWBdKWVaPALLASaPALM BRANCHbDOWN HANDbTREE",
  "bUP HANDaPALMS UP TOGETHERaPALMYRENE LEFT-POINTING FLEURONbLETTER ALEPHcAYINcBETHcDALETH",
  "cFINAL NUNcGIMELcHEcHETHcKAPHcLAMEDHcMEMcNUNcPEcQOPHcRESHcSADHEcSAMEKHcSHINcTAWcTETHcWAWcYODH",
  "cZAYINbNUMBER FIVEcFOURcONEcTENcTHREEcTWENTYcTWObRIGHT-POINTING FLEURONaPANCAKESaPANDA FACE",
  "aPAPERCLIPaPARACHUTEaPARAGRAPH SEPARATORaPARAGRAPHOSaPARAGRAPHUS MARKaPARALLEL TO",
  "bWITH HORIZONTAL STROKEcTILDE OPERATORaPARENTHESIZED DIGIT EIGHTcFIVEcFOURcNINEcONEcSEVENcSIX",
  "cTHREEcTWObHANGUL CHIEUCHdAcCIEUCdAdUcHIEUHdAcIEUNGdAcKHIEUKHdAcKIYEOKdAcMIEUMdAcNIEUNdA",
  "cPHIEUPHdAcPIEUPdAcRIEULdAcSIOSdAcTHIEUTHdAcTIKEUTdAbIDEOGRAPH ALLIANCEcCALLcCONGRATULATION",
  "cEARTHcEIGHTcENTERPRISEcFESTIVALcFINANCIALcFIREcFIVEcFOURcHAVEcLABORcMETALcMOONcNAMEcNINEcONE",
  "cREACHcREPRESENTcRESOURCEcRESTcSELFcSEVENcSIXcSOCIETYcSPECIALcSTOCKcSTUDYcSUNcSUPERVISEcTEN",
  "cTHREEcTWOcWATERcWOODbKOREAN CHARACTER O HUdOJEONbLATIN CAPITAL LETTER AeBeCeDeEeFeGeHeIeJeKeL",
  "eMeNeOePeQeReSeTeUeVeWeXeYeZcSMALL LETTER AeBeCeDeEeFeGeHeIeJeKeLeMeNeOePeQeReSeTeUeVeWeXeYeZ",
  "bNUMBER EIGHTEENcELEVENcFIFTEENcFOURTEENcNINETEENcSEVENTEENcSIXTEENcTENcTHIRTEENcTWELVEcTWENTY",
  "aPARROTaPART ALTERNATION MARKaPARTIAL DIFFERENTIALbLINE BACKWARDcDOWNcFORWARDcUP",
  "aPARTIALLY-RECYCLED PAPER SYMBOLaPARTNERSHIP SIGNaPARTY POPPERaPASSED SYMBOLaPASSENGER SHIP",
  "aPASSIVE-PULL-DOWN-OUTPUT SYMBOLaPASSIVE-PULL-UP-OUTPUT SYMBOLaPASSPORT CONTROL",
  "aPAU CIN HAU GLOTTAL STOPfFINALfVARIANTdLETTER AeBAeCAeCHAeDAeEeFAeFINAL KfLfMfNfNGfPfTfWfYeGA",
  "eHAeIeIAeKAeKHAeLAeMAeNAeNGAeOePAePHAeRAeSAeTAeTHAeUeUAeVAeZAdLOW-FALLING TONEfFINALfLONG",
  "gFINALdMID-LEVEL TONEfFINALfLONG FINALdRISING TONEfFINALfLONGgFINALdSANDHI GLOTTAL STOPgFINAL",
  "eTONEfFINALfLONGgFINALaPAW PRINTSaPDFaPDIaPEACE SYMBOLaPEACHaPEACOCKaPEANUTSaPEARaPEDESTRIAN",
  "aPEN OVER STAMPED ENVELOPEaPENCILaPENGUINaPENSIVE FACEaPENTAGRAMaPEOPLE HUGGINGaPER MILLE SIGN",
  "bSIGNbTEN THOUSAND SIGNaPERCENT SIGNaPERFORMING ARTSaPERMANENT PAPER SIGNaPERPENDICULARbWITH S",
  "aPERSEVERING FACEaPERSON BOWING DEEPLYbCLIMBINGbDOING CARTWHEELbFROWNINGbIN LOTUS POSITION",
  "cSTEAMY ROOMbRAISING BOTH HANDS IN CELEBRATIONbWITH BALLcBLOND HAIRcCROWNcFOLDED HANDS",
  "cHEADSCARFcPOUTING FACEaPERSONAL COMPUTERaPERSPECTIVEaPESETA SIGNaPESO SIGNaPETRI DISH",
  "aPHAGS-PA DOUBLE HEAD MARKbLETTER AcALTERNATE YAcASPIRATED FAcBAcCAcCANDRABINDUcCHAcDAcDDAcDZA",
  "cEcEEcFAcGAcGGAcHAcIcJAcKAcKHAcLAcMAcNAcNGAcNNAcNYAcOcPAcPHAcQAcRAcSAcSHAcSMALL AcTAcTHAcTSA",
  "cTSHAcTTAcTTHAcUcVOICED HAcVOICELESS SHAcWAcXAcYAcZAcZHAbMARK DOUBLE SHADcSHAD",
  "bSINGLE HEAD MARKbSUBJOINED LETTER RAdWAdYAbSUPERFIXED LETTER RAaPHAISTOS DISC SIGN ARROWdBEE",
  "dBEEHIVEdBOOMERANGdBOWdBULLS LEGdCAPTIVEdCARPENTRY PLANEdCATdCHILDdCLUBdCOLUMNdCOMB",
  "dCOMBINING OBLIQUE STROKEdDOLIUMdDOVEdEAGLEdFLUTEdGAUNTLETdGRATERdHELMETdHIDEdHORNdLIDdLILY",
  "dMANACLESdMATTOCKdOX BACKdPAPYRUSdPEDESTRIANdPLANE TREEdPLUMED HEADdRAMdROSETTEdSAWdSHIELD",
  "dSHIPdSLINGdSMALL AXEdSTRAINERdTATTOOED HEADdTIARAdTUNNYdVINEdWAVY BANDdWOMAN",
  "aPHILIPPINE DOUBLE PUNCTUATIONbSINGLE PUNCTUATIONaPHOENICIAN LETTER AINcALFcBETcDELTcGAMLcHE",
  "cHETcKAFcLAMDcMEMcNUNcPEcQOFcROSHcSADEcSEMKcSHINcTAUcTETcWAUcYODcZAIbNUMBER ONEdHUNDREDcTEN",
  "cTHREEcTWENTYcTWObWORD SEPARATORaPHOLUSaPICKaPICKUP TRUCKaPIEaPIGbFACEbNOSEaPILCROW SIGN",
  "aPILE OF POOaPILLaPINATAaPINCHED FINGERSaPINCHING HANDaPINE DECORATIONaPINEAPPLEaPINWHEEL STAR",
  "aPISCESaPISTOLaPITCHFORKbWITH TEE TOPaPLACARDaPLACE OF INTEREST SIGNcWORSHIPaPLANCK CONSTANT",
  "cOVER TWO PIaPLAYGROUND SLIDEaPLAYING CARD ACE OF CLUBSeDIAMONDSeHEARTSeSPADEScBACK",
  "cBLACK JOKERcEIGHT OF CLUBSeDIAMONDSeHEARTSeSPADEScFIVE OF CLUBSeDIAMONDSeHEARTSeSPADEScFOOL",
  "cFOUR OF CLUBSeDIAMONDSeHEARTSeSPADEScJACK OF CLUBSeDIAMONDSeHEARTSeSPADEScKING OF CLUBS",
  "eDIAMONDSeHEARTSeSPADEScKNIGHT OF CLUBSeDIAMONDSeHEARTSeSPADEScNINE OF CLUBSeDIAMONDSeHEARTS",
  "eSPADEScQUEEN OF CLUBSeDIAMONDSeHEARTSeSPADEScRED JOKERcSEVEN OF CLUBSeDIAMONDSeHEARTSeSPADES",
  "cSIX OF CLUBSeDIAMONDSeHEARTSeSPADEScTEN OF CLUBSeDIAMONDSeHEARTSeSPADEScTHREE OF CLUBS",
  "eDIAMONDSeHEARTSeSPADEScTRUMP-1cTRUMP-10cTRUMP-11cTRUMP-12cTRUMP-13cTRUMP-14cTRUMP-15cTRUMP-16",
  "cTRUMP-17cTRUMP-18cTRUMP-19cTRUMP-2cTRUMP-20cTRUMP-21cTRUMP-3cTRUMP-4cTRUMP-5cTRUMP-6cTRUMP-7",
  "cTRUMP-8cTRUMP-9cTWO OF CLUBSeDIAMONDSeHEARTSeSPADEScWHITE JOKERaPLDaPLUaPLUNGERaPLUS SIGN",
  "cABOVE EQUALS SIGNcIN LEFT HALF CIRCLEdRIGHT HALF CIRCLEdTRIANGLEcWITH BLACK TRIANGLE",
  "dCIRCUMFLEX ACCENT ABOVEdDOT BELOWdSMALL CIRCLE ABOVEdSUBSCRIPT TWOdTILDE ABOVEeBELOW",
  "aPLUS-MINUS SIGNaPLUTObFORM FIVEcFOURcTHREEcTWOaPMaPOCKET CALCULATORaPOLICE CAR",
  "bCARS REVOLVING LIGHTbOFFICERaPOODLEaPOP DIRECTIONAL FORMATTINGcISOLATEaPOPCORN",
  "aPORTABLE STEREOaPOSEIDONaPOSITION INDICATORaPOSTAL HORNbMARKcFACEaPOSTBOXaPOT OF FOOD",
  "aPOTABLE WATER SYMBOLaPOTATOaPOTTED PLANTaPOUCHaPOULTRY LEGaPOUND SIGNaPOURING LIQUID",
  "aPOUTING CAT FACEbFACEaPOWER ON SYMBOLbON-OFF SYMBOLbSLEEP SYMBOLbSYMBOLaPRAYER BEADSaPRECEDES",
  "bABOVE ALMOST EQUAL TOcEQUALS SIGNcNOT ALMOST EQUAL TOdEQUAL TOcSINGLE-LINE EQUALS SIGN",
  "dNOT EQUAL TObBUT NOT EQUIVALENT TObOR EQUAL TOcEQUIVALENT TObUNDER RELATIONaPREGNANT MAN",
  "bPERSONbWOMANaPRESCRIPTION TAKEaPRESENTATION FORM FOR VERTICAL COLONeCOMMAeEM DASHeEN DASH",
  "eEXCLAMATION MARKeHORIZONTAL ELLIPSISeIDEOGRAPHIC COMMAfFULL STOPeLEFT ANGLE BRACKET",
  "fBLACK LENTICULAR BRACKETfCORNER BRACKETfCURLY BRACKETfDOUBLE ANGLE BRACKETfPARENTHESIS",
  "fSQUARE BRACKETfTORTOISE SHELL BRACKETfWHITE CORNER BRACKETgLENTICULAR BRACKETeLOW LINE",
  "eQUESTION MARKeRIGHT ANGLE BRACKETfBLACK LENTICULAR BRACKETfCORNER BRACKETfCURLY BRACKET",
  "fDOUBLE ANGLE BRACKETfPARENTHESISfSQUARE BRACKETfTORTOISE SHELL BRACKETfWHITE CORNER BRACKET",
  "gLENTICULAR BRACKEThBRAKCETeSEMICOLONeTWO DOT LEADEReWAVY LOW LINEaPRETZELaPREVIOUS PAGEaPRIME",
  "aPRINCEaPRINCESSaPRINT SCREEN SYMBOLaPRINTERbICONaPRIVACY MESSAGEaPRIVATE USE ONEcTWObUSE-1",
  "bUSE-2aPROBING CANEaPROHIBITED SIGNaPROJECTIVEaPROPERTY LINEaPROPORTIONaPROPORTIONAL TO",
  "aPROSERPINAaPSALTER PAHLAVI FOUR DOTS WITH CROSSfDOTcLETTER ALEPHdBETHdDALETHdGIMELdHEdHETH",
  "dKAPHdLAMEDHdMEM-QOPHdNUNdPEdSADHEdSAMEKHdSHINdTAWdWAW-AYIN-RESHdYODHdZAYINcNUMBER FOURdONE",
  "eHUNDREDdTENdTHREEdTWENTYdTWOcSECTION MARKcTURNED SECTION MARKaPU1aPU2",
  "aPUBLIC ADDRESS LOUDSPEAKERaPUNCTUATION SPACEaPUNCTUS ELEVATUS MARKaPURPLE HEARTaPURSEaPUSHPIN",
  "aPUT LITTER IN ITS PLACE SYMBOLaQUADRANT LOWER LEFTcRIGHTbUPPER LEFT",
  "dAND LOWER LEFT AND LOWER RIGHTfRIGHTeUPPER RIGHT AND LOWER LEFTiRIGHTcRIGHTdAND LOWER LEFT",
  "gAND LOWER RIGHTaQUADRUPLE INTEGRAL OPERATORbPRIMEaQUARTER NOTEaQUATERNION INTEGRAL OPERATOR",
  "aQUESTION EXCLAMATION MARKbMARKaQUESTIONED EQUAL TOaQUINCUNXaQUOTATION MARKaRABBITbFACE",
  "aRACCOONaRACING CARbMOTORCYCLEaRADICAL SYMBOL BOTTOMaRADIObBUTTONaRADIOACTIVE SIGNaRAILWAY CAR",
  "bTRACKaRAINaRAINBOWaRAISED BACK OF HANDbCOMMAbDOTbDOTTED INTERPOLATION MARKERbFISTbHAND",
  "cWITH FINGERS SPLAYEDdPART BETWEEN MIDDLE AND RING FINGERSbINTERPOLATION MARKERbMC SIGN",
  "bMD SIGNbMR SIGNbSQUAREaRAMaRATaRATIOaRAZORaRECEIPTaRECORD SEPARATORaRECREATIONAL VEHICLE",
  "aRECYCLED PAPER SYMBOLaRECYCLING SYMBOL FOR GENERIC MATERIALSdTYPE-1 PLASTICSdTYPE-2 PLASTICS",
  "dTYPE-3 PLASTICSdTYPE-4 PLASTICSdTYPE-5 PLASTICSdTYPE-6 PLASTICSdTYPE-7 PLASTICSaRED APPLE",
  "bGIFT ENVELOPEaREFERENCE MARKaREGIONAL INDICATOR SYMBOL LETTER AeBeCeDeEeFeGeHeIeJeKeLeMeNeOeP",
  "eQeReSeTeUeVeWeXeYeZaREGISTERED SIGNaREJANG CONSONANT SIGN HdNdNGdRbLETTER AcBAcCAcDAcGAcHAcJA",
  "cKAcLAcMAcMBAcNAcNDAcNGAcNGGAcNYAcNYJAcPAcRAcSAcTAcWAcYAbSECTION MARKbVIRAMAbVOWEL SIGN AIdAU",
  "dEdEAdEUdIdOdUaRELIEVED FACEaREMINDER RIBBONaREPLACEMENT CHARACTERaRESPONSE",
  "aRESTRICTED LEFT ENTRY-1cENTRY-2aRESTROOMaRETURN LEFTbRIGHTbSYMBOLaREVERSE CHECKER BOARDbINDEX",
  "bLIGHT FOUR POINTED PINWHEEL STARbLINE FEEDbSOLIDUScOPERATORcPRECEDING SUBSET",
  "cWITH HORIZONTAL STROKEbTILDE OPERATOR ABOVE LEFTWARDS ARROWeRIGHTWARDS ARROWaREVERSED ANGLE",
  "cWITH UNDERBARbCOMMAbDOUBLE PRIMEdQUOTATION MARKcSTROKE NOT SIGNbEMPTY SETbFORKED PARAGRAPHOS",
  "bHAND WITH MIDDLE FINGER EXTENDEDbNOT SIGNbPILCROW SIGNbPRIMEbQUESTION MARK",
  "bRAISED HAND WITH FINGERS SPLAYEDbRIGHT ANGLEbROTATED FLORAL HEART BULLETbSANS-SERIF CAPITAL L",
  "bSEMICOLONbTHUMBS DOWN SIGNcUP SIGNbTILDEcEQUALSbTRIPLE PRIMEbVICTORY HANDaREVOLVING HEARTS",
  "aRHINOCEROSaRIaRIAL SIGNaRIBBONbARROW DOWN LEFTdRIGHTcLEFT DOWNdUPcRIGHT DOWNdUPcUP LEFTdRIGHT",
  "aRICE BALLbCRACKERaRIFLEaRIGHT AND LOWER ONE EIGHTH BLOCKcUPPER ONE EIGHTH BLOCKbANGER BUBBLE",
  "bANGLEcBRACKETdWITH DOTcDOTTED SUBSTITUTION MARKERcSUBSTITUTION MARKERcVARIANT WITH SQUARE",
  "cWITH ARCdDOWNWARDS ZIGZAG ARROWbARC GREATER-THAN BRACKETbARROW WITH CIRCLED PLUSdSMALL CIRCLE",
  "bBLACK LENTICULAR BRACKETcTORTOISE SHELL BRACKETbCEILINGbCORNER BRACKETbCURLY BRACKET",
  "dLOWER HOOKdMIDDLE PIECEdUPPER HOOKbDOTTED SUBSTITUTION BRACKETbDOUBLE ANGLE BRACKET",
  "cARROW WITH ROUNDED HEADcPARENTHESIScQUOTATION MARKcWIGGLY FENCEbFISH TAILbFIVE EIGHTHS BLOCK",
  "bFLOORbHALF BLACK CIRCLEdSTARcBLOCKcFOLDERcMEDIUM SHADEcRUNNING MANbHAND TELEPHONE RECEIVER",
  "bLOW PARAPHRASE BRACKETbNORMAL FACTOR SEMIDIRECT PRODUCTbONE EIGHTH BLOCKcQUARTER BLOCK",
  "bOPEN SQUARED DOTbOUTER JOINbPARENTHESIScEXTENSIONcLOWER HOOKcUPPER HOOK",
  "bRAISED OMISSION BRACKETbS-SHAPED BAG DELIMITERbSEMIDIRECT PRODUCTbSEVEN EIGHTHS BLOCK",
  "bSIDEWAYS U BRACKETbSINGLE QUOTATION MARKbSPEAKERcWITH ONE SOUND WAVEdTHREE SOUND WAVES",
  "bSPEECH BUBBLEbSQUARE BRACKETdEXTENSIONdLOWER CORNERdUPPER CORNERdWITH DOUBLE STROKEeQUILL",
  "eSTROKEeTICK IN BOTTOM CORNERgTOP CORNEReUNDERBARbSUBSTITUTION BRACKETbTACK",
  "bTHIRD WHITE RIGHT POINTING INDEXbTHOUGHT BUBBLEbTHREE EIGHTHS BLOCKcQUARTERS BLOCK",
  "bTORTOISE SHELL BRACKETbTRANSPOSITION BRACKETbTRIANGLEcABOVE LEFT TRIANGLE",
  "bTRIANGULAR ONE QUARTER BLOCKbVERTICAL BAR WITH QUILLcBOX LINEbWHITE CORNER BRACKET",
  "cCURLY BRACKETcLENTICULAR BRACKETcPARENTHESIScSQUARE BRACKETcTORTOISE SHELL BRACKET",
  "bWIGGLY FENCEaRIGHT-FACING ARMENIAN ETERNITY SIGNbFISTbSVASTI SIGNdWITH DOTS",
  "aRIGHT-HANDED INTERLACED PENTAGRAMaRIGHT-POINTING ANGLE BRACKETbCURVED ANGLE BRACKET",
  "bDOUBLE ANGLE QUOTATION MARKbMAGNIFYING GLASSaRIGHT-SHADED WHITE RIGHTWARDS ARROW",
  "aRIGHT-SIDE ARC CLOCKWISE ARROWaRIGHT-TO-LEFT EMBEDDINGbISOLATEbMARKbOVERRIDE",
  "aRIGHTHAND INTERIOR PRODUCTaRIGHTWARDS ARROWcABOVE ALMOST EQUAL TOdREVERSE ALMOST EQUAL TO",
  "eTILDE OPERATORdSHORT LEFTWARDS ARROWdTILDE OPERATORcAND UPPER AND LOWER ONE EIGHTH BLOCK",
  "cFROM BAReTO BLACK DIAMONDcOVER LEFTWARDS ARROWcTHROUGH GREATER-THANdSUPERSETdXcTO BAR",
  "dBLACK DIAMONDcWITH CORNER DOWNWARDSdDOTTED STEMdDOUBLE VERTICAL STROKEdEQUILATERAL ARROWHEAD",
  "dHOOKdLARGE TRIANGLE ARROWHEADdLOOPdMEDIUM TRIANGLE ARROWHEADdNOTCHED TAILdPLUS BELOW",
  "dSMALL EQUILATERAL ARROWHEADeTRIANGLE ARROWHEADdSTROKEdTAILeWITH DOUBLE VERTICAL STROKE",
  "fVERTICAL STROKEdTIP DOWNWARDSeUPWARDSdVERTICAL STROKEbARROW-TAIL",
  "bBACK-TILTED SHADOWED WHITE ARROWbBLACK ARROWcCIRCLED WHITE ARROWbBOTTOM SHADED WHITE ARROW",
  "bCOMPRESSED ARROWbDASHED ARROWbDOUBLE ARROWdFROM BARdWITH STROKEeVERTICAL STROKEcARROW-TAIL",
  "cDASH ARROWbFINGER-POST ARROWbFRONT-TILTED SHADOWED WHITE ARROWbHAND",
  "bHARPOON OVER LEFTWARDS HARPOONcWITH BARB DOWN ABOVE LEFTWARDS HARPOON WITH BARB DOWN",
  "fBELOW LONG DASHfFROM BARfTO BAReDOWNWARDSeUP ABOVE LEFTWARDS HARPOON WITH BARB UPgLONG DASH",
  "gRIGHTWARDS HARPOON WITH BARB DOWNfFROM BARfTO BAReUPWARDSbHEAVY ARROWcCOMPRESSED ARROW",
  "bLEFT-SHADED WHITE ARROWbOPEN-HEADED ARROWbPAIRED ARROWSbQUADRUPLE ARROW",
  "bRIGHT-SHADED WHITE ARROWbROCKETbSANS-SERIF ARROWbSQUARED ARROWbSQUIGGLE ARROW",
  "bTOP SHADED WHITE ARROWbTRIANGLE ARROWHEADbTRIANGLE-HEADED ARROW",
  "dOVER LEFTWARDS TRIANGLE-HEADED ARROWdTO BARdWITH BOLD SHAFTeDOUBLE HORIZONTAL STROKE",
  "fVERTICAL STROKEeHEAVY SHAFTeLONG TIP DOWNWARDSgUPWARDSeMEDIUM SHAFTeNARROW SHAFT",
  "eVERY HEAVY SHAFTcDASHED ARROWcPAIRED ARROWSbTRIPLE ARROWcDASH ARROWbTWO HEADED ARROW",
  "bTWO-HEADED ARROW FROM BARdWITH DOUBLE VERTICAL STROKEeTAILfWITH DOUBLE VERTICAL STROKE",
  "gVERTICAL STROKEeTRIANGLE ARROWHEADSeVERTICAL STROKEcTRIPLE DASH ARROWbWAVE ARROWbWHITE ARROW",
  "dFROM WALLdWITHIN TRIANGLE ARROWHEADaRINGbABOVEbBUOYbEQUAL TObIN EQUAL TObOPERATORbPOINT",
  "aRINGED PLANETaRINGING BELLaRISING DIAGONAL CROSSING FALLING DIAGONALdSOUTH EAST ARROWaRLEaRLI",
  "aRLMaRLOaROASTED SWEET POTATOaROBOT FACEaROCKaROCKETaROLL OF PAPERaROLLED-UP NEWSPAPER",
  "aROLLER COASTERbSKATEaROLLING ON THE FLOOR LAUGHINGaROMAN AS SIGNbCENTURIAL SIGNbDENARIUS SIGN",
  "bDIMIDIA SEXTULA SIGNbDUPONDIUS SIGNbNUMERAL EIGHTcELEVENcFIFTYdEARLY FORMdTHOUSANDcFIVE",
  "dHUNDREDdTHOUSANDcFOURcNINEcONEdHUNDREDeTHOUSANDdTHOUSANDeC DcREVERSED ONE HUNDREDcSEVENcSIX",
  "dLATE FORMcTENdTHOUSANDcTHREEcTWELVEcTWObQUINARIUS SIGNbSEMUNCIA SIGNbSESTERTIUS SIGN",
  "bSEXTANS SIGNbSEXTULA SIGNbSILIQUA SIGNbUNCIA SIGNaROOSTERaROSEaROSETTEaROTATED CAPITAL Q",
  "bFLORAL HEART BULLETbHEAVY BLACK HEART BULLETbLIGHT FOUR POINTED BLACK CUSP",
  "bWHITE FOUR POINTED CUSPaROUND PUSHPINbTARGETaROUNDED SYMBOL FOR CAIdFUdLUdSHOUdSHUANGXIdXI",
  "aROWBOATaRSaRUBLE SIGNaRUGBY FOOTBALLaRULE-DELAYEDaRUMI DIGIT EIGHTcFIVEcFOURcNINEcONEcSEVEN",
  "cSIXcTHREEcTWObFRACTION ONE HALFdQUARTERdTHIRDcTWO THIRDSbNUMBER EIGHT HUNDREDcEIGHTYcFIFTY",
  "cFIVE HUNDREDcFORTYcFOUR HUNDREDcNINE HUNDREDcNINETYcONE HUNDREDcSEVEN HUNDREDcSEVENTY",
  "cSIX HUNDREDcSIXTYcTENcTHIRTYcTHREE HUNDREDcTWENTYcTWO HUNDREDaRUNIC ARLAUG SYMBOL",
  "bBELGTHOR SYMBOLbCROSS PUNCTUATIONbLETTER AC AcAESCcALGIZ EOLHXcANSUZ A",
  "cBERKANAN BEORC BJARKAN BcCcCALCcCEALCcCENcCWEORTHcDcDAGAZ DAEG DcDOTTED-LcDOTTED-NcDOTTED-PcE",
  "cEARcEHWAZ EH EcENGcETHcFEHU FEOH FE FcFRANKS CASKET ACeAESCeEHeISeOScGcGARcGEBO GYFU GcGER",
  "cHAEGL HcHAGLAZ HcICELANDIC-YRcINGcINGWAZcIORcISAZ IS ISS IcIWAZ EOHcJERAN JcKcKAUN KcKAUNA",
  "cLAUKAZ LAGU LOGR LcLONG-BRANCH-AR AEcLONG-BRANCH-HAGALL HcLONG-BRANCH-MADR M",
  "cLONG-BRANCH-OSS OcLONG-BRANCH-YRcMANNAZ MAN McNAUDIZ NYD NAUD NcOcOEcONcOOcOPEN-PcOS O",
  "cOTHALAN ETHEL OcPERTHO PEORTH PcQcRAIDO RAD REID RcSHcSHORT-TWIG-AR AcSHORT-TWIG-BJARKAN B",
  "cSHORT-TWIG-HAGALL HcSHORT-TWIG-MADR McSHORT-TWIG-NAUD NcSHORT-TWIG-OSS OcSHORT-TWIG-SOL S",
  "cSHORT-TWIG-TYR TcSHORT-TWIG-YRcSIGEL LONG-BRANCH-SOL ScSOWILO ScSTANcTHURISAZ THURS THORN",
  "cTIWAZ TIR TYR TcURUZ UR UcVcWcWUNJO WYNN WcXcYcYRcZbMULTIPLE PUNCTUATIONbSINGLE PUNCTUATION",
  "bTVIMADUR SYMBOLaRUNNERaRUNNING SHIRT WITH SASHaRUPEE SIGN",
  "aRUSSIAN ASTROLOGICAL SYMBOL BINOVILEdNOVILEdQUINTILEdSENTAGONdTREDECILEdVIGINTILE"]

end ResourceSymbols.Text.CharacterName

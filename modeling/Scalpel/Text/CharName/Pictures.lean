import Scalpel.Text.CharName.Table

/-!
The names of pictures, of pieces of games, and of the characters that have no shape of their own.
-/

set_option autoImplicit false

namespace Scalpel.Text.CharName

def pictures : String := "
>1F000aMAHJONG TILE EAST WINDnSOUTH WINDnWEST WINDnNORTH WINDnRED DRAGONnGREEN DRAGONnWHITE DRAGON
nONE OF CHARACTERSnTWO OF CHARACTERSoHREE OF CHARACTERSnFOUR OF CHARACTERSoIVE OF CHARACTERS
nSIX OF CHARACTERSoEVEN OF CHARACTERSnEIGHT OF CHARACTERSnNINE OF CHARACTERSnONE OF BAMBOOS
nTWO OF BAMBOOSoHREE OF BAMBOOSnFOUR OF BAMBOOSoIVE OF BAMBOOSnSIX OF BAMBOOSoEVEN OF BAMBOOS
nEIGHT OF BAMBOOSnNINE OF BAMBOOSnONE OF CIRCLESnTWO OF CIRCLESoHREE OF CIRCLESnFOUR OF CIRCLES
oIVE OF CIRCLESnSIX OF CIRCLESoEVEN OF CIRCLESnEIGHT OF CIRCLESnNINE OF CIRCLESnPLUMnORCHIDnBAMBOO
nCHRYSANTHEMUMnSPRINGoUMMERnAUTUMNnWINTERnJOKERnBACK>1F030aDOMINO TILE HORIZONTAL BACKw-00-00á1á2á3
á4á5á6y1-00á1á2á3á4á5á6y2-00á1á2á3á4á5á6y3-00á1á2á3á4á5á6y4-00á1á2á3á4á5á6y5-00á1á2á3á4á5á6y6-00á1á2
á3á4á5á6mVERTICAL BACKu-00-00z1z2z3z4z5z6w1-00z1z2z3z4z5z6w2-00z1z2z3z4z5z6w3-00z1z2z3z4z5z6w4-00z1
z2z3z4z5z6w5-00z1z2z3z4z5z6w6-00z1z2z3z4z5z6>1F0A0aPLAYING CARD BACKnACE OF SPADESnTWO OF SPADES
oHREE OF SPADESnFOUR OF SPADESoIVE OF SPADESnSIX OF SPADESoEVEN OF SPADESnEIGHT OF SPADES
nNINE OF SPADESnTEN OF SPADESnJACK OF SPADESnKNIGHT OF SPADESnQUEEN OF SPADESnKING OF SPADES>1F0B1
nACE OF HEARTSnTWO OF HEARTSoHREE OF HEARTSnFOUR OF HEARTSoIVE OF HEARTSnSIX OF HEARTS
oEVEN OF HEARTSnEIGHT OF HEARTSnNINE OF HEARTSnTEN OF HEARTSnJACK OF HEARTSnKNIGHT OF HEARTS
nQUEEN OF HEARTSnKING OF HEARTSnRED JOKER>1F0C1nACE OF DIAMONDSnTWO OF DIAMONDSoHREE OF DIAMONDS
nFOUR OF DIAMONDSoIVE OF DIAMONDSnSIX OF DIAMONDSoEVEN OF DIAMONDSnEIGHT OF DIAMONDS
nNINE OF DIAMONDSnTEN OF DIAMONDSnJACK OF DIAMONDSnKNIGHT OF DIAMONDSnQUEEN OF DIAMONDS
nKING OF DIAMONDSnBLACK JOKER>1F0D1nACE OF CLUBSnTWO OF CLUBSoHREE OF CLUBSnFOUR OF CLUBS
oIVE OF CLUBSnSIX OF CLUBSoEVEN OF CLUBSnEIGHT OF CLUBSnNINE OF CLUBSnTEN OF CLUBSnJACK OF CLUBS
nKNIGHT OF CLUBSnQUEEN OF CLUBSnKING OF CLUBSnWHITE JOKERnFOOLnTRUMP-1t2t3t4t5t6t7t8t9t10u1u2u3u4u5
u6u7u8u9t20u1>1F100aDIGIT ZERO FULL STOPlCOMMAgONE COMMAgTWO COMMAhHREE COMMAgFOUR COMMAhIVE COMMA
gSIX COMMAhEVEN COMMAgEIGHT COMMAgNINE COMMAcNGBAT CIRCLED SANS-SERIF DIGIT ZERO
iNEGATIVE CIRCLED SANS-SERIF DIGIT ZEROaCIRCLED ZERO WITH SLASHiANTICLOCKWISE ARROW
iDOLLAR SIGN WITH OVERLAID BACKSLASHaPARENTHESIZED LATIN CAPITAL LETTER AéBéCéDéEéFéGéHéIéJéKéLéMéN
éOéPéQéRéSéTéUéVéWéXéYéZaTORTOISE SHELL BRACKETED LATIN CAPITAL LETTER S
aCIRCLED ITALIC LATIN CAPITAL LETTER CêRiCDiWZbOPYLEFT SYMBOLaSQUARED LATIN CAPITAL LETTER AãBãCãDãE
ãFãGãHãIãJãKãLãMãNãOãPãQãRãSãTãUãVãWãXãYãZiHViMViSDjSiPPViWCaNEGATIVE CIRCLED LATIN CAPITAL LETTER A
ìBìCìDìEìFìGìHìIìJìKìLìMìNìOìPìQìRìSìTìUìVìWìXìYìZaRAISED MC SIGNiD SIGNiR SIGNaCIRCLED CC
j WITH OVERLAID BACKSLASHiHUMAN FIGUREaNEGATIVE SQUARED LATIN CAPITAL LETTER AìBìCìDìEìFìGìHìIìJìKìL
ìMìNìOìPìQìRìSìTìUìVìWìXìYìZaCROSSED NEGATIVE SQUARED LATIN CAPITAL LETTER PaNEGATIVE SQUARED ICrPA
rSArABrWCaSQUARE DJgD CLjOOLiFREEiIDiNEWjGiOKiSOSiUP WITH EXCLAMATION MARKiVSiTHREE DiSECOND SCREEN
iTWO KiFOUR KiEIGHT KiFIVE POINT ONEiSEVEN POINT ONEiTWENTY-TWO POINT TWOiSIXTY P
iONE HUNDRED TWENTY PiLATIN SMALL LETTER DiHCjDRjI-RESiLOSSLESSiSHViUHDiVODaMASK WORK SYMBOL>1F1E6
aREGIONAL INDICATOR SYMBOL LETTER AçBçCçDçEçFçGçHçIçJçKçLçMçNçOçPçQçRçSçTçUçVçWçXçYçZ
aSQUARE HIRAGANA HOKAgD KATAKANA KOKOrSA>1F210iCJK UNIFIED IDEOGRAPH-624Bä5B57å3CCiKATAKANA DE
iCJK UNIFIED IDEOGRAPH-4E8Cä591Aä89E3ä5929ä4EA4ä6620ä7121ä6599ä524DåF8Cå18Dä65B0ä521Dä7D42å51Fä8CA9
ä58F0å439ä6F14å295å355ä4E00ç9ä904Aä5DE6ä4E2Dä53F3ä6307ä8D70ä6253ä7981åA7Aä5408ä6E80å709ç8ä7533ä5272
å5B6ä914D>1F240aTORTOISE SHELL BRACKETED CJK UNIFIED IDEOGRAPH-672Cõ4E09÷8Cõ5B89õ70B9õ6253õ76D7õ52DD
õ6557>1F250aCIRCLED IDEOGRAPH ADVANTAGEtCCEPT>1F260aROUNDED SYMBOL FOR FUtLUtSHOUtXItSHUANGXItCAI
>1F300aCYCLONEaFOGGYaCLOSED UMBRELLAaNIGHT WITH STARSaSUNRISE OVER MOUNTAINShaCITYSCAPE AT DUSK
aSUNSET OVER BUILDINGSaRAINBOWaBRIDGE AT NIGHTaWATER WAVEaVOLCANOaMILKY WAY
aEARTH GLOBE EUROPE-AFRICAmAMERICASnSIA-AUSTRALIAaGLOBE WITH MERIDIANSaNEW MOON SYMBOL
aWAXING CRESCENT MOON SYMBOLaFIRST QUARTER MOON SYMBOLaWAXING GIBBOUS MOON SYMBOLaFULL MOON SYMBOL
aWANING GIBBOUS MOON SYMBOLaLAST QUARTER MOON SYMBOLaWANING CRESCENT MOON SYMBOLaCRESCENT MOON
aNEW MOON WITH FACEaFIRST QUARTER MOON WITH FACEaLAST QUARTER MOON WITH FACEaFULL MOON WITH FACE
aSUN WITH FACEaGLOWING STARaSHOOTING STARaTHERMOMETERaBLACK DROPLETaWHITE SUNj WITH SMALL CLOUD
kBEHIND CLOUDw WITH RAINaCLOUD WITH RAINlSNOWlLIGHTNINGlTORNADOaFOGaWIND BLOWING FACEaHOT DOGaTACO
aBURRITOaCHESTNUTaSEEDLINGaEVERGREEN TREEaDECIDUOUS TREEaPALM TREEaCACTUSaHOT PEPPERaTULIP
aCHERRY BLOSSOMaROSEaHIBISCUSaSUNFLOWERaBLOSSOMaEAR OF MAIZEhRICEaHERBaFOUR LEAF CLOVERaMAPLE LEAF
aFALLEN LEAFaLEAF FLUTTERING IN WINDaMUSHROOMaTOMATOaAUBERGINEaGRAPESaMELONaWATERMELONaTANGERINE
aLEMONaBANANAaPINEAPPLEaRED APPLEaGREEN APPLEaPEARdCHaCHERRIESaSTRAWBERRYaHAMBURGERaSLICE OF PIZZA
aMEAT ON BONEaPOULTRY LEGaRICE CRACKERfBALLaCOOKED RICEbURRY AND RICEaSTEAMING BOWLbPAGHETTIaBREAD
aFRENCH FRIESaROASTED SWEET POTATOaDANGOaODENaSUSHIaFRIED SHRIMPbISH CAKE WITH SWIRL DESIGN
aSOFT ICE CREAMbHAVED ICEaICE CREAMaDOUGHNUTaCOOKIEbHOCOLATE BARbANDYaLOLLIPOPaCUSTARDaHONEY POT
aSHORTCAKEaBENTO BOXaPOT OF FOODaCOOKINGaFORK AND KNIFEaTEACUP WITHOUT HANDLEaSAKE BOTTLE AND CUP
aWINE GLASSaCOCKTAIL GLASSaTROPICAL DRINKaBEER MUGaCLINKING BEER MUGSaBABY BOTTLE
aFORK AND KNIFE WITH PLATEaBOTTLE WITH POPPING CORKaPOPCORNaRIBBONaWRAPPED PRESENTaBIRTHDAY CAKE
aJACK-O-LANTERNaCHRISTMAS TREEaFATHER CHRISTMASbIREWORKSi SPARKLERaBALLOONaPARTY POPPER
aCONFETTI BALLaTANABATA TREEaCROSSED FLAGSaPINE DECORATIONaJAPANESE DOLLSaCARP STREAMERaWIND CHIME
aMOON VIEWING CEREMONYaSCHOOL SATCHELaGRADUATION CAPaHEART WITH TIP ON THE LEFTaBOUQUET OF FLOWERS
aMILITARY MEDALaREMINDER RIBBONaMUSICAL KEYBOARD WITH JACKSaSTUDIO MICROPHONEaLEVEL SLIDER
aCONTROL KNOBSaBEAMED ASCENDING MUSICAL NOTEShDESCENDING MUSICAL NOTESaFILM FRAMESaADMISSION TICKETS
aCAROUSEL HORSEaFERRIS WHEELaROLLER COASTERaFISHING POLE AND FISHaMICROPHONEbOVIE CAMERAaCINEMA
aHEADPHONEaARTIST PALETTEaTOP HATaCIRCUS TENTaTICKETaCLAPPER BOARDaPERFORMING ARTSaVIDEO GAME
aDIRECT HITaSLOT MACHINEaBILLIARDSaGAME DIEaBOWLINGaFLOWER PLAYING CARDSaMUSICAL NOTE
cLTIPLE MUSICAL NOTESaSAXOPHONEaGUITARaMUSICAL KEYBOARDaTRUMPETaVIOLINaMUSICAL SCORE
aRUNNING SHIRT WITH SASHaTENNIS RACQUET AND BALLaSKI AND SKI BOOTaBASKETBALL AND HOOPaCHEQUERED FLAG
aSNOWBOARDERaRUNNERaSURFERbPORTS MEDALaTROPHYaHORSE RACINGaAMERICAN FOOTBALLaRUGBY FOOTBALLaSWIMMER
aWEIGHT LIFTERaGOLFERaRACING MOTORCYCLEhCARaCRICKET BAT AND BALLaVOLLEYBALL
aFIELD HOCKEY STICK AND BALLaICE HOCKEY STICK AND PUCKaTABLE TENNIS PADDLE AND BALL
aSNOW CAPPED MOUNTAINaCAMPINGaBEACH WITH UMBRELLAbUILDING CONSTRUCTIONaHOUSE BUILDINGSaCITYSCAPE
aDERELICT HOUSE BUILDINGaCLASSICAL BUILDINGaDESERTg ISLANDaNATIONAL PARKaSTADIUMaHOUSE BUILDING
gWITH GARDENaOFFICE BUILDINGaJAPANESE POST OFFICEaEUROPEAN POST OFFICEaHOSPITALaBANK
aAUTOMATED TELLER MACHINEaHOTELaLOVE HOTELaCONVENIENCE STOREaSCHOOLaDEPARTMENT STOREaFACTORY
aIZAKAYA LANTERNaJAPANESE CASTLEaEUROPEAN CASTLEaWHITE PENNANTaBLACK PENNANTaWAVING WHITE FLAG
hBLACK FLAGaROSETTEaBLACK ROSETTEaLABELaBADMINTON RACQUET AND SHUTTLECOCKbOW AND ARROWaAMPHORA
aEMOJI MODIFIER FITZPATRICK TYPE-1-2æ3æ4æ5æ6aRATaMOUSEaOXaWATER BUFFALOaCOWaTIGERaLEOPARDaRABBITaCAT
aDRAGONaCROCODILEaWHALEaSNAILdKEaHORSEaRAMaGOATaSHEEPaMONKEYaROOSTERaCHICKENaDOGaPIGaBOARaELEPHANT
aOCTOPUSaSPIRAL SHELLaBUGaANTaHONEYBEEaLADY BEETLEaFISHaTROPICAL FISHaBLOWFISHaTURTLEaHATCHING CHICK
aBABY CHICKaFRONT-FACING BABY CHICKaBIRDaPENGUINaKOALAaPOODLEaDROMEDARY CAMELaBACTRIAN CAMELaDOLPHIN
aMOUSE FACEaCOW FACEaTIGER FACEaRABBIT FACEaCAT FACEaDRAGON FACEaSPOUTING WHALEaHORSE FACE
aMONKEY FACEaDOG FACEaPIG FACEaFROG FACEaHAMSTER FACEaWOLF FACEaBEAR FACEaPANDA FACEbIG NOSE
bAW PRINTSaCHIPMUNKaEYESdbARaNOSEaMOUTHaTONGUEaWHITE UP POINTING BACKHAND INDEX
gDOWN POINTING BACKHAND INDEXgLEFT POINTING BACKHAND INDEXgRIGHT POINTING BACKHAND INDEX
aFISTED HAND SIGNaWAVING HAND SIGNaOK HAND SIGNaTHUMBS UP SIGNhDOWN SIGNaCLAPPING HANDS SIGN
aOPEN HANDS SIGNaCROWNaWOMANS HATaEYEGLASSESaNECKTIEaT-SHIRTaJEANSaDRESSaKIMONOaBIKINI
aWOMANS CLOTHESaPURSEaHANDBAGaPOUCHaMANS SHOEaATHLETIC SHOEaHIGH-HEELED SHOEaWOMANS SANDALhBOOTS
aFOOTPRINTSaBUST IN SILHOUETTEeS IN SILHOUETTEbOYaGIRLaMANaWOMANaFAMILYaMAN AND WOMAN HOLDING HANDS
aTWO MEN HOLDING HANDSeWOMEN HOLDING HANDSaPOLICE OFFICERaWOMAN WITH BUNNY EARSaBRIDE WITH VEIL
aPERSON WITH BLOND HAIRaMAN WITH GUA PI MAOjTURBANaOLDER MANgWOMANaBABYaCONSTRUCTION WORKERaPRINCESS
aJAPANESE OGREjGOBLINaGHOSTaBABY ANGELaEXTRATERRESTRIAL ALIENaALIEN MONSTERaIMPaSKULL
aINFORMATION DESK PERSONaGUARDSMANaDANCERaLIPSTICKaNAIL POLISHaFACE MASSAGEaHAIRCUTaBARBER POLE
aSYRINGEaPILLaKISS MARKaLOVE LETTERaRINGaGEM STONEaKISSaBOUQUETaCOUPLE WITH HEARTaWEDDING
aBEATING HEARTbROKEN HEARTaTWO HEARTSaSPARKLING HEARTaGROWING HEARTaHEART WITH ARROWaBLUE HEART
aGREEN HEARTaYELLOW HEARTaPURPLE HEARTaHEART WITH RIBBONaREVOLVING HEARTSaHEART DECORATION
aDIAMOND SHAPE WITH A DOT INSIDEaELECTRIC LIGHT BULBaANGER SYMBOLaBOMBaSLEEPING SYMBOL
aCOLLISION SYMBOLaSPLASHING SWEAT SYMBOLaDROPLETbASH SYMBOLaPILE OF POOaFLEXED BICEPSaDIZZY SYMBOL
aSPEECH BALLOONaTHOUGHT BALLOONaWHITE FLOWERaHUNDRED POINTS SYMBOLaMONEY BAGaCURRENCY EXCHANGE
aHEAVY DOLLAR SIGNaCREDIT CARDaBANKNOTE WITH YEN SIGNoDOLLAR SIGNoEURO SIGNoPOUND SIGN
aMONEY WITH WINGSaCHART WITH UPWARDS TREND AND YEN SIGNaSEATaPERSONAL COMPUTERaBRIEFCASEaMINIDISC
aFLOPPY DISKaOPTICAL DISCaDVDaFILE FOLDERaOPEN FILE FOLDERaPAGE WITH CURLfFACING UPaCALENDAR
aTEAR-OFF CALENDARaCARD INDEXbHART WITH UPWARDS TRENDlDOWNWARDS TRENDaBAR CHARTaCLIPBOARDaPUSHPIN
aROUND PUSHPINaPAPERCLIPaSTRAIGHT RULERaTRIANGULAR RULERaBOOKMARK TABSaLEDGERaNOTEBOOK
i WITH DECORATIVE COVERaCLOSED BOOKaOPEN BOOKaGREEN BOOKaBLUE BOOKaORANGE BOOKaBOOKSaNAME BADGE
aSCROLLaMEMOaTELEPHONE RECEIVERaPAGERaFAX MACHINEaSATELLITE ANTENNAaPUBLIC ADDRESS LOUDSPEAKER
aCHEERING MEGAPHONEaOUTBOX TRAYaINBOX TRAYaPACKAGEaE-MAIL SYMBOLaINCOMING ENVELOPE
aENVELOPE WITH DOWNWARDS ARROW ABOVEaCLOSED MAILBOX WITH LOWERED FLAGuRAISED FLAG
aOPEN MAILBOX WITH RAISED FLAGsLOWERED FLAGaPOSTBOXeAL HORNaNEWSPAPERaMOBILE PHONE
m WITH RIGHTWARDS ARROW AT LEFTaVIBRATION MODEaMOBILE PHONE OFFaNO MOBILE PHONESaANTENNA WITH BARS
aCAMERAg WITH FLASHaVIDEO CAMERAaTELEVISIONaRADIOaVIDEOCASSETTEaFILM PROJECTORaPORTABLE STEREO
bRAYER BEADSaTWISTED RIGHTWARDS ARROWSaCLOCKWISE RIGHTWARDS AND LEFTWARDS OPEN CIRCLE ARROWS
û WITH CIRCLED ONE OVERLAYkDOWNWARDS AND UPWARDS OPEN CIRCLE ARROWS
aANTICLOCKWISE DOWNWARDS AND UPWARDS OPEN CIRCLE ARROWSaLOW BRIGHTNESS SYMBOLaHIGH BRIGHTNESS SYMBOL
aSPEAKER WITH CANCELLATION STROKEhh WITH ONE SOUND WAVEnTHREE SOUND WAVESaBATTERYaELECTRIC PLUG
aLEFT-POINTING MAGNIFYING GLASSaRIGHT-POINTING MAGNIFYING GLASSaLOCK WITH INK PEN
aCLOSED LOCK WITH KEYaKEYaLOCKaOPEN LOCKaBELLe WITH CANCELLATION STROKEbOOKMARKaLINK SYMBOL
aRADIO BUTTONaBACK WITH LEFTWARDS ARROW ABOVEaEND WITH LEFTWARDS ARROW ABOVE
aON WITH EXCLAMATION MARK WITH LEFT RIGHT ARROW ABOVEaSOON WITH RIGHTWARDS ARROW ABOVE
aTOP WITH UPWARDS ARROW ABOVEaNO ONE UNDER EIGHTEEN SYMBOLaKEYCAP TEN
aINPUT SYMBOL FOR LATIN CAPITAL LETTERSxSMALL LETTERSrNUMBERSrSYMBOLSrLATIN LETTERSaFIRE
aELECTRIC TORCHaWRENCHaHAMMERaNUT AND BOLTaHOCHOaPISTOLaMICROSCOPEaTELESCOPEaCRYSTAL BALL
aSIX POINTED STAR WITH MIDDLE DOTaJAPANESE SYMBOL FOR BEGINNERaTRIDENT EMBLEMaBLACK SQUARE BUTTON
aWHITE SQUARE BUTTONaLARGE RED CIRCLEgBLUE CIRCLEgORANGE DIAMONDgBLUE DIAMONDaSMALL ORANGE DIAMOND
gBLUE DIAMONDaUP-POINTING RED TRIANGLEaDOWN-POINTING RED TRIANGLEaUP-POINTING SMALL RED TRIANGLE
aDOWN-POINTING SMALL RED TRIANGLEaLOWER RIGHT SHADOWED WHITE CIRCLE
aUPPER RIGHT SHADOWED WHITE CIRCLEaCIRCLED CROSS POMMEEbROSS POMMEE WITH HALF-CIRCLE BELOWm
aNOTCHED LEFT SEMICIRCLE WITH THREE DOTSiRIGHT SEMICIRCLE WITH THREE DOTSaSYMBOL FOR MARKS CHAPTER
aWHITE LATIN CROSSaHEAVY LATIN CROSSaCELTIC CROSSaOM SYMBOLaDOVE OF PEACEaKAABAaMOSQUEaSYNAGOGUE
aMENORAH WITH NINE BRANCHESaBOWL OF HYGIEIAaCLOCK FACE ONE OCLOCKlTWO OCLOCKmHREE OCLOCKlFOUR OCLOCK
mIVE OCLOCKlSIX OCLOCKmEVEN OCLOCKlEIGHT OCLOCKlNINE OCLOCKlTEN OCLOCKlELEVEN OCLOCKlTWELVE OCLOCK
lONE-THIRTYlTWO-THIRTYmHREE-THIRTYlFOUR-THIRTYmIVE-THIRTYlSIX-THIRTYmEVEN-THIRTYlEIGHT-THIRTY
lNINE-THIRTYlTEN-THIRTYlELEVEN-THIRTYlTWELVE-THIRTYaRIGHT SPEAKERn WITH ONE SOUND WAVE
tTHREE SOUND WAVESaBULLHORNi WITH SOUND WAVESaRINGING BELLaBOOKaCANDLEaMANTELPIECE CLOCK
aBLACK SKULL AND CROSSBONESaNO PIRACYaHOLEaMAN IN BUSINESS SUIT LEVITATINGaSLEUTH OR SPY
aDARK SUNGLASSESaSPIDERg WEBaJOYSTICKaMAN DANCINGaLEFT HAND TELEPHONE RECEIVER
aTELEPHONE RECEIVER WITH PAGEaRIGHT HAND TELEPHONE RECEIVERaWHITE TOUCHTONE TELEPHONE
aBLACK TOUCHTONE TELEPHONEaTELEPHONE ON TOP OF MODEMaCLAMSHELL MOBILE PHONEaBACK OF ENVELOPE
aSTAMPED ENVELOPEaENVELOPE WITH LIGHTNINGaFLYING ENVELOPEaPEN OVER STAMPED ENVELOPE
aLINKED PAPERCLIPSaBLACK PUSHPINaLOWER LEFT PENCILlBALLPOINT PENlFOUNTAIN PENlPAINTBRUSHlCRAYON
bEFT WRITING HANDaTURNED OK HAND SIGNaRAISED HAND WITH FINGERS SPLAYED
bEVERSED RAISED HAND WITH FINGERS SPLAYEDjTHUMBS UP SIGNqDOWN SIGNjVICTORY HAND
jHAND WITH MIDDLE FINGER EXTENDEDbAISED HAND WITH PART BETWEEN MIDDLE AND RING FINGERS
aWHITE DOWN POINTING LEFT HAND INDEXaSIDEWAYS WHITE LEFT POINTING INDEXpRIGHT POINTING INDEX
jBLACK LEFT POINTING INDEXpRIGHT POINTING INDEXaBLACK LEFT POINTING BACKHAND INDEX
gRIGHT POINTING BACKHAND INDEXaSIDEWAYS WHITE UP POINTING INDEXpDOWN POINTING INDEX
jBLACK UP POINTING INDEXpDOWN POINTING INDEXaBLACK UP POINTING BACKHAND INDEX
gDOWN POINTING BACKHAND INDEXgHEARTaDESKTOP COMPUTERaKEYBOARD AND MOUSEaTHREE NETWORKED COMPUTERS
aPRINTERbOCKET CALCULATORaBLACK HARD SHELL FLOPPY DISKaWHITE HARD SHELL FLOPPY DISK
aSOFT SHELL FLOPPY DISKaTAPE CARTRIDGEaWIRED KEYBOARDaONE BUTTON MOUSEaTWO BUTTON MOUSE
bHREE BUTTON MOUSEbRACKBALLaOLD PERSONAL COMPUTERaHARD DISKaSCREENaPRINTER ICONaFAX ICON
aOPTICAL DISC ICONaDOCUMENT WITH TEXTs AND PICTUREoPICTUREaFRAME WITH PICTURElTILESlAN X
aBLACK FOLDERaFOLDERaOPEN FOLDERaCARD INDEX DIVIDERSfFILE BOXaFILE CABINETaEMPTY NOTEk PAGEnDaNOTE
e PAGEhDaEMPTY DOCUMENTgPAGEkSaDOCUMENTaPAGEeSaWASTEBASKETaSPIRAL NOTE PADhCALENDAR PAD
aDESKTOP WINDOWaMINIMIZEbAXIMIZEaOVERLAPaCLOCKWISE RIGHT AND LEFT SEMICIRCLE ARROWSbANCELLATION X
aINCREASE FONT SIZE SYMBOLaDECREASE FONT SIZE SYMBOLaCOMPRESSIONaOLD KEYaROLLED-UP NEWSPAPER
aPAGE WITH CIRCLED TEXTaSTOCK CHARTaDAGGER KNIFEaLIPSaSPEAKING HEAD IN SILHOUETTEaTHREE RAYS ABOVE
lBELOWlLEFTlRIGHTaLEFT SPEECH BUBBLEaRIGHT SPEECH BUBBLEaTWO SPEECH BUBBLESbHREE SPEECH BUBBLES
aLEFT THOUGHT BUBBLEaRIGHT THOUGHT BUBBLEaLEFT ANGER BUBBLEaRIGHT ANGER BUBBLEaMOOD BUBBLE
aLIGHTNING MOOD BUBBLEoaBALLOT BOX WITH BALLOThSCRIPT XhBOX WITH SCRIPT XjLD SCRIPT X
jX WITH BOLD SCRIPT XaLIGHT CHECK MARKaBALLOT BOX WITH BOLD CHECKaWORLD MAPaMOUNT FUJIaTOKYO TOWER
aSTATUE OF LIBERTYbILHOUETTE OF JAPANaMOYAIaGRINNING FACEn WITH SMILING EYESaFACE WITH TEARS OF JOY
aSMILING FACE WITH OPEN MOUTHâ AND SMILING EYESçCOLD SWEATçTIGHTLY-CLOSED EYESsHALOtORNS
aWINKING FACEaSMILING FACE WITH SMILING EYESaFACE SAVOURING DELICIOUS FOODaRELIEVED FACE
aSMILING FACE WITH HEART-SHAPED EYESsSUNGLASSESdRKING FACEaNEUTRAL FACEaEXPRESSIONLESS FACE
aUNAMUSED FACEaFACE WITH COLD SWEATaPENSIVE FACEaCONFUSED FACEeOUNDED FACEaKISSING FACE
aFACE THROWING A KISSaKISSING FACE WITH SMILING EYESsCLOSED EYESaFACE WITH STUCK-OUT TONGUE
à AND WINKING EYEåTIGHTLY-CLOSED EYESaDISAPPOINTED FACEaWORRIED FACEaANGRY FACEaPOUTING FACE
aCRYING FACEaPERSEVERING FACEaFACE WITH LOOK OF TRIUMPHaDISAPPOINTED BUT RELIEVED FACE
aFROWNING FACE WITH OPEN MOUTHaANGUISHED FACEaFEARFUL FACEaWEARY FACEaSLEEPY FACEaTIRED FACE
aGRIMACING FACEaLOUDLY CRYING FACEaFACE WITH OPEN MOUTHaHUSHED FACE
aFACE WITH OPEN MOUTH AND COLD SWEATfSCREAMING IN FEARaASTONISHED FACEaFLUSHED FACEaSLEEPING FACE
aDIZZY FACEaFACE WITHOUT MOUTHj MEDICAL MASKaGRINNING CAT FACE WITH SMILING EYES
aCAT FACE WITH TEARS OF JOYaSMILING CAT FACE WITH OPEN MOUTHwHEART-SHAPED EYES
aCAT FACE WITH WRY SMILEaKISSING CAT FACE WITH CLOSED EYESaPOUTING CAT FACEaCRYING CAT FACE
aWEARY CAT FACEaSLIGHTLY FROWNING FACEjSMILING FACEaUPSIDE-DOWN FACEaFACE WITH ROLLING EYES
kNO GOOD GESTUREkOK GESTUREaPERSON BOWING DEEPLYaSEE-NO-EVIL MONKEYaHEAR-NO-EVIL MONKEY
aSPEAK-NO-EVIL MONKEYaHAPPY PERSON RAISING ONE HANDaPERSON RAISING BOTH HANDS IN CELEBRATION
hFROWNINGhWITH POUTING FACEmFOLDED HANDSaNORTH WEST POINTING LEAFaSOUTH WEST POINTING LEAF
aNORTH EAST POINTING LEAFaSOUTH EAST POINTING LEAFaTURNED NORTH WEST POINTING LEAF
hSOUTH WEST POINTING LEAFhNORTH EAST POINTING LEAFhSOUTH EAST POINTING LEAF
aNORTH WEST POINTING VINE LEAFaSOUTH WEST POINTING VINE LEAFaNORTH EAST POINTING VINE LEAF
aSOUTH EAST POINTING VINE LEAFaHEAVY NORTH WEST POINTING VINE LEAFgSOUTH WEST POINTING VINE LEAF
gNORTH EAST POINTING VINE LEAFgSOUTH EAST POINTING VINE LEAFaNORTH WEST POINTING BUD
aSOUTH WEST POINTING BUDaNORTH EAST POINTING BUDaSOUTH EAST POINTING BUD
aHEAVY NORTH WEST POINTING BUDgSOUTH WEST POINTING BUDgNORTH EAST POINTING BUD
gSOUTH EAST POINTING BUDbOLLOW QUILT SQUARE ORNAMENTâ IN BLACK SQUAREaSOLID QUILT SQUARE ORNAMENT
á IN BLACK SQUAREaLEFTWARDS ROCKETaUPWARDS ROCKETaRIGHTWARDS ROCKETaDOWNWARDS ROCKET
aSCRIPT LIGATURE ET ORNAMENTaHEAVY SCRIPT LIGATURE ET ORNAMENTaLIGATURE OPEN ET ORNAMENT
aHEAVY LIGATURE OPEN ET ORNAMENTgAMPERSAND ORNAMENTaSWASH AMPERSAND ORNAMENT
bANS-SERIF HEAVY DOUBLE TURNED COMMA QUOTATION MARK ORNAMENTyCOMMA QUOTATION MARK ORNAMENT
rLOW DOUBLE COMMA QUOTATION MARK ORNAMENTaHEAVY INTERROBANG ORNAMENTaSANS-SERIF INTERROBANG ORNAMENT
aHEAVY SANS-SERIF INTERROBANG ORNAMENTaVERY HEAVY SOLIDUSlREVERSE SOLIDUSaCHECKER BOARD
aREVERSE CHECKER BOARDbOCKETaHELICOPTERaSTEAM LOCOMOTIVEaRAILWAY CARaHIGH-SPEED TRAIN
q WITH BULLET NOSEaTRAINaMETROaLIGHT RAILaSTATIONaTRAMe CARaBUSaONCOMING BUSaTROLLEYBUSaBUS STOP
aMINIBUSaAMBULANCEaFIRE ENGINEaPOLICE CARaONCOMING POLICE CARaTAXIaONCOMING TAXIaAUTOMOBILE
aONCOMING AUTOMOBILEaRECREATIONAL VEHICLEaDELIVERY TRUCKaARTICULATED LORRYaTRACTORaMONORAIL
cUNTAIN RAILWAYaSUSPENSION RAILWAYaMOUNTAIN CABLEWAYaAERIAL TRAMWAYaSHIPaROWBOATaSPEEDBOAT
aHORIZONTAL TRAFFIC LIGHTaVERTICAL TRAFFIC LIGHTaCONSTRUCTION SIGNaPOLICE CARS REVOLVING LIGHT
aTRIANGULAR FLAG ON POSTaDOORaNO ENTRY SIGNaSMOKING SYMBOLaNO SMOKING SYMBOL
aPUT LITTER IN ITS PLACE SYMBOLaDO NOT LITTER SYMBOLaPOTABLE WATER SYMBOLaNON-POTABLE WATER SYMBOL
aBICYCLEaNO BICYCLESaBICYCLISTaMOUNTAIN BICYCLISTaPEDESTRIANaNO PEDESTRIANSaCHILDREN CROSSING
aMENS SYMBOLaWOMENS SYMBOLaRESTROOMaBABY SYMBOLaTOILETaWATER CLOSETaSHOWERaBATHeTUBaPASSPORT CONTROL
aCUSTOMSaBAGGAGE CLAIMaLEFT LUGGAGEaTRIANGLE WITH ROUNDED CORNERSaPROHIBITED SIGN
aCIRCLED INFORMATION SOURCEaBOYS SYMBOLaGIRLS SYMBOLaCOUCH AND LAMPaSLEEPING ACCOMMODATION
bHOPPING BAGSaBELLHOP BELLcDaPLACE OF WORSHIPaOCTAGONAL SIGNaSHOPPING TROLLEYbTUPAaPAGODA
aHINDU TEMPLEbUTaELEVATOR>1F6DDaPLAYGROUND SLIDEaWHEELaRING BUOYaHAMMER AND WRENCHaSHIELDaOIL DRUM
aMOTORWAYaRAILWAY TRACKaMOTOR BOATaUP-POINTING MILITARY AIRPLANEmAIRPLANEmSMALL AIRPLANE
aSMALL AIRPLANEaNORTHEAST-POINTING AIRPLANEaAIRPLANE DEPARTUREjARRIVING>1F6F0aSATELLITE
aONCOMING FIRE ENGINEaDIESEL LOCOMOTIVEaPASSENGER SHIPaSCOOTERaMOTOR SCOOTERaCANOEaSLED
aFLYING SAUCERaSKATEBOARDaAUTO RICKSHAWaPICKUP TRUCKaROLLER SKATE>1F700
aALCHEMICAL SYMBOL FOR QUINTESSENCEwAIRwFIREwEARTHwWATERwAQUAFORTISà REGIAæ-2áVITAEæ-2wVINEGARã-2ä3
wSULFURwPHILOSOPHERS SULFURwBLACK SULFURwMERCURY SUBLIMATEí-2î3wCINNABARwSALTwNITREwVITRIOLã-2
wROCK SALTå-2wGOLDwSILVERwIRON OREä-2wCROCUS OF IRONwREGULUS OF IRONwCOPPER OREwIRON-COPPER ORE
wSUBLIMATE OF COPPERwCROCUS OF COPPERì-2xOPPER ANTIMONIATEwSALT OF COPPER ANTIMONIATE
xUBLIMATE OF SALT OF COPPERwVERDIGRISwTIN OREwLEAD OREwANTIMONY OREwSUBLIMATE OF ANTIMONY
xALT OF ANTIMONYxUBLIMATE OF SALT OF ANTIMONYwVINEGAR OF ANTIMONYwREGULUS OF ANTIMONYï-2ãã-2ä3ä4
wALKALIâ-2wMARCASITEwSAL-AMMONIACwARSENICwREALGARã-2wAURIPIGMENTwBISMUTH OREwTARTARâ-2wQUICK LIME
wBORAXá-2â3wALUMwOILwSPIRITwTINCTUREwGUMwWAXwPOWDERwCALXwTUTTYwCAPUT MORTUUMwSCEPTER OF JOVE
wCADUCEUSwTRIDENTwSTARRED TRIDENTwLODESTONEwSOAPwURINEwHORSE DUNGwASHESwPOT ASHESwBRICK
wPOWDERED BRICKwAMALGAMwSTRATUM SUPER STRATUMñ-2xUBLIMATIONwPRECIPITATEwDISTILLzSOLVEä-2wPURIFY
yTREFACTIONwCRUCIBLEä-2å3å4å5wALEMBICwBATH OF MARYäVAPOURSwRETORTwHOURwNIGHTwDAY-NIGHTwMONTH
wHALF DRAMáOUNCE>1F780aBLACK LEFT-POINTING ISOSCELES RIGHT TRIANGLE
gUP-POINTING ISOSCELES RIGHT TRIANGLEgRIGHT-POINTING ISOSCELES RIGHT TRIANGLE
gDOWN-POINTING ISOSCELES RIGHT TRIANGLEgSLIGHTLY SMALL CIRCLEaMEDIUM BOLD WHITE CIRCLE
aBOLD WHITE CIRCLEaHEAVY WHITE CIRCLEaVERY HEAVY WHITE CIRCLEaEXTREMELY HEAVY WHITE CIRCLE
aWHITE CIRCLE CONTAINING BLACK SMALL CIRCLEaROUND TARGETaBLACK TINY SQUAREgSLIGHTLY SMALL SQUARE
aLIGHT WHITE SQUAREaMEDIUM WHITE SQUAREaBOLD WHITE SQUAREaHEAVY WHITE SQUAREaVERY HEAVY WHITE SQUARE
aEXTREMELY HEAVY WHITE SQUAREaWHITE SQUARE CONTAINING BLACK VERY SMALL SQUAREäMEDIUM SQUARE
aSQUARE TARGETaBLACK TINY DIAMONDgVERY SMALL DIAMONDgMEDIUM SMALL DIAMOND
aWHITE DIAMOND CONTAINING BLACK VERY SMALL DIAMONDåMEDIUM DIAMONDaDIAMOND TARGETaBLACK TINY LOZENGE
gVERY SMALL LOZENGEgMEDIUM SMALL LOZENGEaWHITE LOZENGE CONTAINING BLACK SMALL LOZENGE
aTHIN GREEK CROSSaLIGHT GREEK CROSSaMEDIUM GREEK CROSSaBOLD GREEK CROSSaVERY BOLD GREEK CROSS
fHEAVY GREEK CROSSaEXTREMELY HEAVY GREEK CROSSaTHIN SALTIREaLIGHT SALTIREaMEDIUM SALTIRE
aBOLD SALTIREaHEAVY SALTIREaVERY HEAVY SALTIREaEXTREMELY HEAVY SALTIREaLIGHT FIVE SPOKED ASTERISK
aMEDIUM FIVE SPOKED ASTERISKaBOLD FIVE SPOKED ASTERISKaHEAVY FIVE SPOKED ASTERISK
aVERY HEAVY FIVE SPOKED ASTERISKaEXTREMELY HEAVY FIVE SPOKED ASTERISKaLIGHT SIX SPOKED ASTERISK
aMEDIUM SIX SPOKED ASTERISKaBOLD SIX SPOKED ASTERISKaHEAVY SIX SPOKED ASTERISK
aVERY HEAVY SIX SPOKED ASTERISKaEXTREMELY HEAVY SIX SPOKED ASTERISKaLIGHT EIGHT SPOKED ASTERISK
aMEDIUM EIGHT SPOKED ASTERISKaBOLD EIGHT SPOKED ASTERISKaHEAVY EIGHT SPOKED ASTERISK
aVERY HEAVY EIGHT SPOKED ASTERISKaLIGHT THREE POINTED BLACK STARaMEDIUM THREE POINTED BLACK STAR
aTHREE POINTED BLACK STARaMEDIUM THREE POINTED PINWHEEL STARaLIGHT FOUR POINTED BLACK STAR
aMEDIUM FOUR POINTED BLACK STARaFOUR POINTED BLACK STARaMEDIUM FOUR POINTED PINWHEEL STAR
aREVERSE LIGHT FOUR POINTED PINWHEEL STARaLIGHT FIVE POINTED BLACK STAR
aHEAVY FIVE POINTED BLACK STARaMEDIUM SIX POINTED BLACK STARaHEAVY SIX POINTED BLACK STAR
aSIX POINTED PINWHEEL STARaMEDIUM EIGHT POINTED BLACK STARaHEAVY EIGHT POINTED BLACK STAR
aVERY HEAVY EIGHT POINTED BLACK STARaHEAVY EIGHT POINTED PINWHEEL STAR
aLIGHT TWELVE POINTED BLACK STARaHEAVY TWELVE POINTED BLACK STARvPINWHEEL STARaCIRCLED TRIANGLE
aNEGATIVE CIRCLED TRIANGLEaCIRCLED SQUAREaNEGATIVE CIRCLED SQUARE>1F7E0aLARGE ORANGE CIRCLE
gYELLOW CIRCLEgGREEN CIRCLEgPURPLE CIRCLEgBROWN CIRCLEgRED SQUAREgBLUE SQUAREgORANGE SQUARE
gYELLOW SQUAREgGREEN SQUAREgPURPLE SQUAREgBROWN SQUARE>1F7F0aHEAVY EQUALS SIGN>1F800
aLEFTWARDS ARROW WITH SMALL TRIANGLE ARROWHEADaUPWARDS ARROW WITH SMALL TRIANGLE ARROWHEAD
aRIGHTWARDS ARROW WITH SMALL TRIANGLE ARROWHEADaDOWNWARDS ARROW WITH SMALL TRIANGLE ARROWHEAD
aLEFTWARDS ARROW WITH MEDIUM TRIANGLE ARROWHEADaUPWARDS ARROW WITH MEDIUM TRIANGLE ARROWHEAD
aRIGHTWARDS ARROW WITH MEDIUM TRIANGLE ARROWHEADaDOWNWARDS ARROW WITH MEDIUM TRIANGLE ARROWHEAD
aLEFTWARDS ARROW WITH LARGE TRIANGLE ARROWHEADaUPWARDS ARROW WITH LARGE TRIANGLE ARROWHEAD
aRIGHTWARDS ARROW WITH LARGE TRIANGLE ARROWHEADaDOWNWARDS ARROW WITH LARGE TRIANGLE ARROWHEAD>1F810
aLEFTWARDS ARROW WITH SMALL EQUILATERAL ARROWHEADaUPWARDS ARROW WITH SMALL EQUILATERAL ARROWHEAD
aRIGHTWARDS ARROW WITH SMALL EQUILATERAL ARROWHEADaDOWNWARDS ARROW WITH SMALL EQUILATERAL ARROWHEAD
aLEFTWARDS ARROW WITH EQUILATERAL ARROWHEADaUPWARDS ARROW WITH EQUILATERAL ARROWHEAD
aRIGHTWARDS ARROW WITH EQUILATERAL ARROWHEADaDOWNWARDS ARROW WITH EQUILATERAL ARROWHEAD
aHEAVY LEFTWARDS ARROW WITH EQUILATERAL ARROWHEADgUPWARDS ARROW WITH EQUILATERAL ARROWHEAD
gRIGHTWARDS ARROW WITH EQUILATERAL ARROWHEADgDOWNWARDS ARROW WITH EQUILATERAL ARROWHEAD
gLEFTWARDS ARROW WITH LARGE EQUILATERAL ARROWHEADgUPWARDS ARROW WITH LARGE EQUILATERAL ARROWHEAD
gRIGHTWARDS ARROW WITH LARGE EQUILATERAL ARROWHEADgDOWNWARDS ARROW WITH LARGE EQUILATERAL ARROWHEAD
aLEFTWARDS TRIANGLE-HEADED ARROW WITH NARROW SHAFTaUPWARDS TRIANGLE-HEADED ARROW WITH NARROW SHAFT
aRIGHTWARDS TRIANGLE-HEADED ARROW WITH NARROW SHAFT
aDOWNWARDS TRIANGLE-HEADED ARROW WITH NARROW SHAFTaLEFTWARDS TRIANGLE-HEADED ARROW WITH MEDIUM SHAFT
aUPWARDS TRIANGLE-HEADED ARROW WITH MEDIUM SHAFTaRIGHTWARDS TRIANGLE-HEADED ARROW WITH MEDIUM SHAFT
aDOWNWARDS TRIANGLE-HEADED ARROW WITH MEDIUM SHAFTaLEFTWARDS TRIANGLE-HEADED ARROW WITH BOLD SHAFT
aUPWARDS TRIANGLE-HEADED ARROW WITH BOLD SHAFTaRIGHTWARDS TRIANGLE-HEADED ARROW WITH BOLD SHAFT
aDOWNWARDS TRIANGLE-HEADED ARROW WITH BOLD SHAFTaLEFTWARDS TRIANGLE-HEADED ARROW WITH HEAVY SHAFT
aUPWARDS TRIANGLE-HEADED ARROW WITH HEAVY SHAFTaRIGHTWARDS TRIANGLE-HEADED ARROW WITH HEAVY SHAFT
aDOWNWARDS TRIANGLE-HEADED ARROW WITH HEAVY SHAFT
aLEFTWARDS TRIANGLE-HEADED ARROW WITH VERY HEAVY SHAFT
aUPWARDS TRIANGLE-HEADED ARROW WITH VERY HEAVY SHAFT
aRIGHTWARDS TRIANGLE-HEADED ARROW WITH VERY HEAVY SHAFT
aDOWNWARDS TRIANGLE-HEADED ARROW WITH VERY HEAVY SHAFTaLEFTWARDS FINGER-POST ARROW
aUPWARDS FINGER-POST ARROWaRIGHTWARDS FINGER-POST ARROWaDOWNWARDS FINGER-POST ARROW
aLEFTWARDS SQUARED ARROWaUPWARDS SQUARED ARROWaRIGHTWARDS SQUARED ARROWaDOWNWARDS SQUARED ARROW
aLEFTWARDS COMPRESSED ARROWaUPWARDS COMPRESSED ARROWaRIGHTWARDS COMPRESSED ARROW
aDOWNWARDS COMPRESSED ARROWaLEFTWARDS HEAVY COMPRESSED ARROWaUPWARDS HEAVY COMPRESSED ARROW
aRIGHTWARDS HEAVY COMPRESSED ARROWaDOWNWARDS HEAVY COMPRESSED ARROWaLEFTWARDS HEAVY ARROW
aUPWARDS HEAVY ARROWaRIGHTWARDS HEAVY ARROWaDOWNWARDS HEAVY ARROW>1F850aLEFTWARDS SANS-SERIF ARROW
aUPWARDS SANS-SERIF ARROWaRIGHTWARDS SANS-SERIF ARROWaDOWNWARDS SANS-SERIF ARROW
aNORTH WEST SANS-SERIF ARROWgEAST SANS-SERIF ARROWaSOUTH EAST SANS-SERIF ARROWgWEST SANS-SERIF ARROW
aLEFT RIGHT SANS-SERIF ARROWaUP DOWN SANS-SERIF ARROW>1F860aWIDE-HEADED LEFTWARDS LIGHT BARB ARROW
mUPWARDS LIGHT BARB ARROWmRIGHTWARDS LIGHT BARB ARROWmDOWNWARDS LIGHT BARB ARROW
mNORTH WEST LIGHT BARB ARROWsEAST LIGHT BARB ARROWmSOUTH EAST LIGHT BARB ARROWsWEST LIGHT BARB ARROW
mLEFTWARDS BARB ARROWmUPWARDS BARB ARROWmRIGHTWARDS BARB ARROWmDOWNWARDS BARB ARROW
mNORTH WEST BARB ARROWsEAST BARB ARROWmSOUTH EAST BARB ARROWsWEST BARB ARROW
mLEFTWARDS MEDIUM BARB ARROWmUPWARDS MEDIUM BARB ARROWmRIGHTWARDS MEDIUM BARB ARROW
mDOWNWARDS MEDIUM BARB ARROWmNORTH WEST MEDIUM BARB ARROWsEAST MEDIUM BARB ARROW
mSOUTH EAST MEDIUM BARB ARROWsWEST MEDIUM BARB ARROWmLEFTWARDS HEAVY BARB ARROW
mUPWARDS HEAVY BARB ARROWmRIGHTWARDS HEAVY BARB ARROWmDOWNWARDS HEAVY BARB ARROW
mNORTH WEST HEAVY BARB ARROWsEAST HEAVY BARB ARROWmSOUTH EAST HEAVY BARB ARROWsWEST HEAVY BARB ARROW
mLEFTWARDS VERY HEAVY BARB ARROWmUPWARDS VERY HEAVY BARB ARROWmRIGHTWARDS VERY HEAVY BARB ARROW
mDOWNWARDS VERY HEAVY BARB ARROWmNORTH WEST VERY HEAVY BARB ARROWsEAST VERY HEAVY BARB ARROW
mSOUTH EAST VERY HEAVY BARB ARROWsWEST VERY HEAVY BARB ARROW>1F890aLEFTWARDS TRIANGLE ARROWHEAD
aUPWARDS TRIANGLE ARROWHEADaRIGHTWARDS TRIANGLE ARROWHEADaDOWNWARDS TRIANGLE ARROWHEAD
aLEFTWARDS WHITE ARROW WITHIN TRIANGLE ARROWHEADaUPWARDS WHITE ARROW WITHIN TRIANGLE ARROWHEAD
aRIGHTWARDS WHITE ARROW WITHIN TRIANGLE ARROWHEADaDOWNWARDS WHITE ARROW WITHIN TRIANGLE ARROWHEAD
aLEFTWARDS ARROW WITH NOTCHED TAILaUPWARDS ARROW WITH NOTCHED TAIL
aRIGHTWARDS ARROW WITH NOTCHED TAILaDOWNWARDS ARROW WITH NOTCHED TAILaHEAVY ARROW SHAFT WIDTH ONE
yTWO THIRDSyONE HALFâTHIRDaLEFTWARDS BOTTOM-SHADED WHITE ARROWaRIGHTWARDS BOTTOM SHADED WHITE ARROW
aLEFTWARDS TOP SHADED WHITE ARROWaRIGHTWARDS TOP SHADED WHITE ARROW
aLEFTWARDS LEFT-SHADED WHITE ARROWaRIGHTWARDS RIGHT-SHADED WHITE ARROW
aLEFTWARDS RIGHT-SHADED WHITE ARROWaRIGHTWARDS LEFT-SHADED WHITE ARROW
aLEFTWARDS BACK-TILTED SHADOWED WHITE ARROWaRIGHTWARDS BACK-TILTED SHADOWED WHITE ARROW
aLEFTWARDS FRONT-TILTED SHADOWED WHITE ARROWaRIGHTWARDS FRONT-TILTED SHADOWED WHITE ARROW
aWHITE ARROW SHAFT WIDTH ONEyTWO THIRDS>1F8B0aARROW POINTING UPWARDS THEN NORTH WEST
pRIGHTWARDS THEN CURVING SOUTH WEST>1F900aCIRCLED CROSS FORMEE WITH FOUR DOTSàTWO DOTSu
aLEFT HALF CIRCLE WITH FOUR DOTSwTHREE DOTSxWO DOTSwDOTqaDOWNWARD FACING HOOKqNOTCHED HOOK
qHOOK WITH DOTqNOTCHED HOOK WITH DOTaPINCHED FINGERSaWHITE HEARTaBROWN HEARTaPINCHING HAND
aZIPPER-MOUTH FACEaMONEY-MOUTH FACEaFACE WITH THERMOMETERaNERD FACEaTHINKING FACE
aFACE WITH HEAD-BANDAGEaROBOT FACEaHUGGING FACEaSIGN OF THE HORNSaCALL ME HANDaRAISED BACK OF HAND
aLEFT-FACING FISTaRIGHT-FACING FISTaHANDSHAKEe WITH INDEX AND MIDDLE FINGERS CROSSED
aI LOVE YOU HAND SIGNaFACE WITH COWBOY HATaCLOWN FACEaNAUSEATED FACEaROLLING ON THE FLOOR LAUGHING
aDROOLING FACEaLYING FACEaFACE PALMaSNEEZING FACEaFACE WITH ONE EYEBROW RAISED
aGRINNING FACE WITH STAR EYEStONE LARGE AND ONE SMALL EYEaFACE WITH FINGER COVERING CLOSED LIPS
aSERIOUS FACE WITH SYMBOLS COVERING MOUTHbMILING FACE WITH SMILING EYES AND HAND COVERING MOUTH
aFACE WITH OPEN MOUTH VOMITINGaSHOCKED FACE WITH EXPLODING HEADaPREGNANT WOMANaBREAST-FEEDING
aPALMS UP TOGETHERaSELFIEaPRINCEaMAN IN TUXEDObOTHER CHRISTMASaSHRUGaPERSON DOING CARTWHEELaJUGGLING
aFENCERaMODERN PENTATHLONaWRESTLERSbATER POLOaHANDBALLaDIVING MASKaWILTED FLOWER
aDRUM WITH DRUMSTICKSaCLINKING GLASSESaTUMBLER GLASSaSPOONaGOAL NETaRIFLEaFIRST PLACE MEDAL
aSECOND PLACE MEDALaTHIRD PLACE MEDALaBOXING GLOVEaMARTIAL ARTS UNIFORMaCURLING STONE
aLACROSSE STICK AND BALLaSOFTBALLaFLYING DISCaCROISSANTaAVOCADOaCUCUMBERaBACONaPOTATOaCARROT
aBAGUETTE BREADaGREEN SALADaSHALLOW PAN OF FOODbTUFFED FLATBREADaEGGaGLASS OF MILKaPEANUTSaKIWIFRUIT
aPANCAKESaDUMPLINGaFORTUNE COOKIEaTAKEOUT BOXaCHOPSTICKSaBOWL WITH SPOONaCUP WITH STRAWbOCONUT
aBROCCOLIaPIEbRETZELaCUT OF MEATaSANDWICHaCANNED FOODaLEAFY GREENaMANGObOON CAKEaBAGEL
aSMILING FACE WITH SMILING EYES AND THREE HEARTSaYAWNING FACEaSMILING FACE WITH TEAR
aFACE WITH PARTY HORN AND PARTY HATkUNEVEN EYES AND WAVY MOUTHaOVERHEATED FACEaFREEZING FACEaNINJA
aDISGUISED FACEaFACE HOLDING BACK TEARSfWITH PLEADING EYESaSARIaLAB COATaGOGGLESaHIKING BOOT
aFLAT SHOEaCRABaLION FACEaSCORPIONaTURKEYaUNICORN FACEaEAGLEaDUCKaBATaSHARKaOWLaFOX FACEaBUTTERFLY
aDEERaGORILLAaLIZARDaRHINOCEROSaSHRIMPbQUIDaGIRAFFE FACEaZEBRA FACEaHEDGEHOGaSAUROPODaT-REXaCRICKET
aKANGAROOaLLAMAaPEACOCKaHIPPOPOTAMUSaPARROTaRACCOONaLOBSTERaMOSQUITObICROBEaBADGERaSWANaMAMMOTHaDODO
aSLOTHaOTTERbRANGUTANaSKUNKaFLAMINGOaOYSTERaBEAVERbISONaSEALaGUIDE DOGaPROBING CANE
aEMOJI COMPONENT RED HAIRqCURLY HAIRqBALDqWHITE HAIRaBONEaLEGaFOOTaTOOTHaSUPERHEROfVILLAIN
bAFETY VESTaEAR WITH HEARING AIDaMOTORIZED WHEELCHAIRbANUAL WHEELCHAIRbECHANICAL ARMlLEG
aCHEESE WEDGEbUPCAKEaSALT SHAKERaBEVERAGE BOXaGARLICaONIONaFALAFELaWAFFLEaBUTTERaMATE DRINKaICE CUBE
aBUBBLE TEAaTROLLaSTANDING PERSONaKNEELING PERSONaDEAF PERSONaFACE WITH MONOCLEaADULTaCHILD
aOLDER ADULTaBEARDED PERSONaPERSON WITH HEADSCARFhIN STEAMY ROOMhCLIMBINGhIN LOTUS POSITIONaMAGE
aFAIRYaVAMPIREaMERPERSONaELFaGENIEaZOMBIEaBRAINaORANGE HEARTaBILLED CAPaSCARFaGLOVESaCOATaSOCKS
aRED GIFT ENVELOPEaFIRECRACKERaJIGSAW PUZZLE PIECEaTEST TUBEaPETRI DISHaDNA DOUBLE HELIXaCOMPASS
aABACUSaFIRE EXTINGUISHERaTOOLBOXaBRICKaMAGNETaLUGGAGEbOTION BOTTLEaSPOOL OF THREADaBALL OF YARN
aSAFETY PINaTEDDY BEARaBROOMbASKETaROLL OF PAPERaBAR OF SOAPaSPONGEaRECEIPTaNAZAR AMULET
bEUTRAL CHESS KINGoQUEENoROOKoBISHOPoKNIGHToPAWNaWHITE CHESS KNIGHT ROTATED FORTY-FIVE DEGREES
aBLACK CHESS KNIGHT ROTATED FORTY-FIVE DEGREESaNEUTRAL CHESS KNIGHT ROTATED FORTY-FIVE DEGREES
aWHITE CHESS KING ROTATED NINETY DEGREESmQUEEN ROTATED NINETY DEGREESmROOK ROTATED NINETY DEGREES
mBISHOP ROTATED NINETY DEGREESmKNIGHT ROTATED NINETY DEGREESmPAWN ROTATED NINETY DEGREES
aBLACK CHESS KING ROTATED NINETY DEGREESmQUEEN ROTATED NINETY DEGREESmROOK ROTATED NINETY DEGREES
mBISHOP ROTATED NINETY DEGREESmKNIGHT ROTATED NINETY DEGREESmPAWN ROTATED NINETY DEGREES
aNEUTRAL CHESS KING ROTATED NINETY DEGREESoQUEEN ROTATED NINETY DEGREESoROOK ROTATED NINETY DEGREES
oBISHOP ROTATED NINETY DEGREESoKNIGHT ROTATED NINETY DEGREESoPAWN ROTATED NINETY DEGREES
aWHITE CHESS KNIGHT ROTATED ONE HUNDRED THIRTY-FIVE DEGREES
aBLACK CHESS KNIGHT ROTATED ONE HUNDRED THIRTY-FIVE DEGREES
aNEUTRAL CHESS KNIGHT ROTATED ONE HUNDRED THIRTY-FIVE DEGREESaWHITE CHESS TURNED KINGtQUEENtROOK
tBISHOPtKNIGHTtPAWNaBLACK CHESS TURNED KINGtQUEENtROOKtBISHOPtKNIGHTtPAWNaNEUTRAL CHESS TURNED KING
vQUEENvROOKvBISHOPvKNIGHTvPAWNaWHITE CHESS KNIGHT ROTATED TWO HUNDRED TWENTY-FIVE DEGREES
aBLACK CHESS KNIGHT ROTATED TWO HUNDRED TWENTY-FIVE DEGREES
aNEUTRAL CHESS KNIGHT ROTATED TWO HUNDRED TWENTY-FIVE DEGREES
aWHITE CHESS KING ROTATED TWO HUNDRED SEVENTY DEGREESmQUEEN ROTATED TWO HUNDRED SEVENTY DEGREES
mROOK ROTATED TWO HUNDRED SEVENTY DEGREESmBISHOP ROTATED TWO HUNDRED SEVENTY DEGREES
mKNIGHT ROTATED TWO HUNDRED SEVENTY DEGREESmPAWN ROTATED TWO HUNDRED SEVENTY DEGREES
aBLACK CHESS KING ROTATED TWO HUNDRED SEVENTY DEGREESmQUEEN ROTATED TWO HUNDRED SEVENTY DEGREES
mROOK ROTATED TWO HUNDRED SEVENTY DEGREESmBISHOP ROTATED TWO HUNDRED SEVENTY DEGREES
mKNIGHT ROTATED TWO HUNDRED SEVENTY DEGREESmPAWN ROTATED TWO HUNDRED SEVENTY DEGREES
aNEUTRAL CHESS KING ROTATED TWO HUNDRED SEVENTY DEGREESoQUEEN ROTATED TWO HUNDRED SEVENTY DEGREES
oROOK ROTATED TWO HUNDRED SEVENTY DEGREESoBISHOP ROTATED TWO HUNDRED SEVENTY DEGREES
oKNIGHT ROTATED TWO HUNDRED SEVENTY DEGREESoPAWN ROTATED TWO HUNDRED SEVENTY DEGREES
aWHITE CHESS KNIGHT ROTATED THREE HUNDRED FIFTEEN DEGREES
aBLACK CHESS KNIGHT ROTATED THREE HUNDRED FIFTEEN DEGREES
aNEUTRAL CHESS KNIGHT ROTATED THREE HUNDRED FIFTEEN DEGREESaWHITE CHESS EQUIHOPPER
aBLACK CHESS EQUIHOPPERaNEUTRAL CHESS EQUIHOPPERaWHITE CHESS EQUIHOPPER ROTATED NINETY DEGREES
aBLACK CHESS EQUIHOPPER ROTATED NINETY DEGREESaNEUTRAL CHESS EQUIHOPPER ROTATED NINETY DEGREES
aWHITE CHESS KNIGHT-QUEENtROOKtBISHOPaBLACK CHESS KNIGHT-QUEENtROOKtBISHOP>1FA60aXIANGQI RED GENERAL
mMANDARINmELEPHANTmHORSEmCHARIOTnANNONmSOLDIERiBLACK GENERALoMANDARINoELEPHANToHORSEoCHARIOTpANNON
oSOLDIER>1FA70aBALLET SHOESaONE-PIECE SWIMSUITaBRIEFSaSHORTSaTHONG SANDAL>1FA78aDROP OF BLOOD
aADHESIVE BANDAGEaSTETHOSCOPEaX-RAYaCRUTCH>1FA80aYO-YOaKITEaPARACHUTEaBOOMERANGaMAGIC WANDaPINATA
aNESTING DOLLS>1FA90aRINGED PLANETaCHAIRaRAZORaAXEaDIYA LAMPaBANJOaMILITARY HELMETaACCORDION
aLONG DRUMaCOINbARPENTRY SAWaSCREWDRIVERaLADDERaHOOKaMIRRORaWINDOWaPLUNGERaSEWING NEEDLEaKNOTaBUCKET
aMOUSE TRAPaTOOTHBRUSHaHEADSTONEaPLACARDaROCKaMIRROR BALLaIDENTIFICATION CARDaLOW BATTERYaHAMSA
>1FAB0aFLYaWORMaBEETLEaCOCKROACHaPOTTED PLANTaWOODaFEATHERaLOTUSaCORALaEMPTY NESTaNEST WITH EGGS
>1FAC0aANATOMICAL HEARTaLUNGSaPEOPLE HUGGINGbREGNANT MANjPERSONbERSON WITH CROWN>1FAD0aBLUEBERRIES
bELL PEPPERaOLIVEaFLATBREADaTAMALEaFONDUEaTEAPOTaPOURING LIQUIDaBEANSaJAR>1FAE0aMELTING FACE
aSALUTING FACEaFACE WITH OPEN EYES AND HAND OVER MOUTHkPEEKING EYEkDIAGONAL MOUTHaDOTTED LINE FACE
aBITING LIPbUBBLES>1FAF0aHAND WITH INDEX FINGER AND THUMB CROSSEDaRIGHTWARDS HANDaLEFTWARDS HAND
aPALM DOWN HANDfUP HANDaINDEX POINTING AT THE VIEWERaHEART HANDS>1FB00aBLOCK SEXTANT-1o2o12o3o13o23
o123o4o14o24o124o34o134o234o1234o5o15o25o125o35o235o1235o45o145o245o1245o345o1345o2345o12345o6o16o26
o126o36o136o236o1236o46o146p246o346o1346o2346o12346o56o156o256o1256o356o1356o2356o12356o456o1456
o2456o12456o3456o13456o23456aLOWER LEFT BLOCK DIAGONAL LOWER MIDDLE LEFT TO LOWER CENTREûRIGHT
àUPPER MIDDLE LEFT TO LOWER CENTREûRIGHTæLEFT TO LOWER CENTRE
gRIGHT BLOCK DIAGONAL UPPER MIDDLE LEFT TO UPPER CENTREüRIGHTáLOWER MIDDLE LEFT TO UPPER CENTRE
üRIGHTçLEFT TO UPPER CENTREçMIDDLE LEFT TO UPPER MIDDLE RIGHTçCENTRE TO LOWER MIDDLE RIGHT
çLEFT TO LOWER MIDDLE RIGHTçCENTRE TO UPPER MIDDLE RIGHTçLEFT TO UPPER MIDDLE RIGHT
çCENTRE TO UPPER RIGHTgLEFT BLOCK DIAGONAL UPPER CENTRE TO UPPER MIDDLE RIGHT
æLEFT TO UPPER MIDDLE RIGHTæCENTRE TO LOWER MIDDLE RIGHTæLEFT TO LOWER MIDDLE RIGHT
æCENTRE TO LOWER RIGHTæMIDDLE LEFT TO LOWER MIDDLE RIGHT
aUPPER RIGHT BLOCK DIAGONAL LOWER MIDDLE LEFT TO LOWER CENTREüRIGHT
áUPPER MIDDLE LEFT TO LOWER CENTREüRIGHTçLEFT TO LOWER CENTRE
gLEFT BLOCK DIAGONAL UPPER MIDDLE LEFT TO UPPER CENTREûRIGHTàLOWER MIDDLE LEFT TO UPPER CENTREûRIGHT
æLEFT TO UPPER CENTREæMIDDLE LEFT TO UPPER MIDDLE RIGHTæCENTRE TO LOWER MIDDLE RIGHT
æLEFT TO LOWER MIDDLE RIGHTæCENTRE TO UPPER MIDDLE RIGHTæLEFT TO UPPER MIDDLE RIGHT
æCENTRE TO UPPER RIGHTgRIGHT BLOCK DIAGONAL UPPER CENTRE TO UPPER MIDDLE RIGHT
çLEFT TO UPPER MIDDLE RIGHTçCENTRE TO LOWER MIDDLE RIGHTçLEFT TO LOWER MIDDLE RIGHT
çCENTRE TO LOWER RIGHTçMIDDLE LEFT TO LOWER MIDDLE RIGHT
gAND RIGHT AND LOWER TRIANGULAR THREE QUARTERS BLOCK
aLEFT AND LOWER AND RIGHT TRIANGULAR THREE QUARTERS BLOCK
aUPPER AND LEFT AND LOWER TRIANGULAR THREE QUARTERS BLOCK
aLEFT AND UPPER AND RIGHT TRIANGULAR THREE QUARTERS BLOCKfTRIANGULAR ONE QUARTER BLOCK
aUPPER TRIANGULAR ONE QUARTER BLOCKaRIGHT TRIANGULAR ONE QUARTER BLOCK
aLOWER TRIANGULAR ONE QUARTER BLOCKaVERTICAL ONE EIGHTH BLOCK-2à3à4à5à6à7
aHORIZONTAL ONE EIGHTH BLOCK-2â3â4â5â6â7aLEFT AND LOWER ONE EIGHTH BLOCKjUPPER ONE EIGHTH BLOCK
aRIGHT AND UPPER ONE EIGHTH BLOCKkLOWER ONE EIGHTH BLOCKaUPPER AND LOWER ONE EIGHTH BLOCK
aHORIZONTAL ONE EIGHTH BLOCK-1358aUPPER ONE QUARTER BLOCKgTHREE EIGHTHS BLOCKgFIVE EIGHTHS BLOCK
gTHREE QUARTERS BLOCKgSEVEN EIGHTHS BLOCKaRIGHT ONE QUARTER BLOCKgTHREE EIGHTHS BLOCK
gFIVE EIGHTHS BLOCKgTHREE QUARTERS BLOCKgSEVEN EIGHTHS BLOCKaLEFT HALF MEDIUM SHADE
aRIGHT HALF MEDIUM SHADEaUPPER HALF MEDIUM SHADEaLOWER HALF MEDIUM SHADEaINVERSE MEDIUM SHADE
aUPPER HALF BLOCK AND LOWER HALF INVERSE MEDIUM SHADElINVERSE MEDIUM SHADE AND LOWER HALF BLOCK
>1FB94aLEFT HALF INVERSE MEDIUM SHADE AND RIGHT HALF BLOCKaCHECKER BOARD FILL
aINVERSE CHECKER BOARD FILLaHEAVY HORIZONTAL FILLaUPPER LEFT TO LOWER RIGHT FILL
gRIGHT TO LOWER LEFT FILLgAND LOWER TRIANGULAR HALF BLOCKaLEFT AND RIGHT TRIANGULAR HALF BLOCK
aUPPER LEFT TRIANGULAR MEDIUM SHADEgRIGHT TRIANGULAR MEDIUM SHADE
aLOWER RIGHT TRIANGULAR MEDIUM SHADEgLEFT TRIANGULAR MEDIUM SHADE
aBOX DRAWINGS LIGHT DIAGONAL UPPER CENTRE TO MIDDLE LEFTùRIGHTâMIDDLE LEFT TO LOWER CENTRE
éRIGHT TO LOWER CENTREâUPPER CENTRE TO MIDDLE LEFT TO LOWER CENTREùRIGHT TO LOWER CENTRE
âMIDDLE LEFT TO LOWER CENTRE TO MIDDLE RIGHTñUPPER CENTRE TO MIDDLE RIGHT
âUPPER CENTRE TO MIDDLE LEFT AND MIDDLE RIGHT TO LOWER CENTREùRIGHT AND MIDDLE LEFT TO LOWER CENTRE
ÿTO LOWER CENTRE TO MIDDLE LEFTùLEFT TO LOWER CENTRE TO MIDDLE RIGHT
âMIDDLE LEFT TO UPPER CENTRE TO MIDDLE RIGHT TO LOWER CENTRE
éRIGHT TO UPPER CENTRE TO MIDDLE LEFT TO LOWER CENTREâDIAMONDtHORIZONTAL WITH VERTICAL STROKE
aARROWHEAD-SHAPED POINTERaINVERSE CHECK MARKaLEFT HALF RUNNING MANaRIGHT HALF RUNNING MAN
aINVERSE DOWNWARDS ARROW WITH TIP LEFTWARDSaLEFTWARDS ARROW AND UPPER AND LOWER ONE EIGHTH BLOCK
aRIGHTWARDS ARROW AND UPPER AND LOWER ONE EIGHTH BLOCKaDOWNWARDS ARROW AND RIGHT ONE EIGHTH BLOCK
aUPWARDS ARROW AND RIGHT ONE EIGHTH BLOCKaLEFT HALF FOLDERaRIGHT HALF FOLDERaVOIDED GREEK CROSS
aRIGHT OPEN SQUARED DOTaNEGATIVE DIAGONAL CROSSsMIDDLE RIGHT TO LOWER CENTREsDIAMOND
aWHITE HEAVY SALTIRE WITH ROUNDED CORNERSaLEFT THIRD WHITE RIGHT POINTING INDEX
aMIDDLE THIRD WHITE RIGHT POINTING INDEXaRIGHT THIRD WHITE RIGHT POINTING INDEX
aNEGATIVE SQUARED QUESTION MARKaSTICK FIGUREm WITH ARMS RAISEDnLEANING LEFTvRIGHTnWITH DRESS
aWHITE UP-POINTING CHEVRON>1FBF0aSEGMENTED DIGIT ZEROqONEqTWOrHREEqFOURrIVEqSIXrEVENqEIGHTqNINE
>E0001aLANGUAGE TAG>E0020aTAG SPACEeEXCLAMATION MARKeQUOTATION MARKeNUMBER SIGNeDOLLAR SIGN
ePERCENT SIGNeAMPERSANDfPOSTROPHEeLEFT PARENTHESISeRIGHT PARENTHESISeASTERISKePLUS SIGNeCOMMA
eHYPHEN-MINUSeFULL STOPeSOLIDUSeDIGIT ZEROkONEkTWOlHREEkFOURlIVEkSIXlEVENkEIGHTkNINEeCOLONeSEMICOLON
eLESS-THAN SIGNeEQUALS SIGNeGREATER-THAN SIGNeQUESTION MARKeCOMMERCIAL ATeLATIN CAPITAL LETTER AzBzC
zDzEzFzGzHzIzJzKzLzMzNzOzPzQzRzSzTzUzVzWzXzYzZfEFT SQUARE BRACKETeREVERSE SOLIDUS
fIGHT SQUARE BRACKETeCIRCUMFLEX ACCENTeLOW LINEeGRAVE ACCENTeLATIN SMALL LETTER AxBxCxDxExFxGxHxIxJ
xKxLxMxNxOxPxQxRxSxTxUxVxWxXxYxZfEFT CURLY BRACKETeVERTICAL LINEeRIGHT CURLY BRACKETeTILDE
aCANCEL TAG>E0100aVARIATION SELECTOR-17u8u9t20u1u2u3u4u5u6u7u8u9t30u1u2u3u4u5u6u7u8u9t40u1u2u3u4u5u6
u7u8u9t50u1u2u3u4u5u6u7u8u9t60u1u2u3u4u5u6u7u8u9t70u1u2u3u4u5u6u7u8u9t80u1u2u3u4u5u6u7u8u9t90u1u2u3
u4u5u6u7u8u9t100v1v2v3v4v5v6v7v8v9u10v1v2v3v4v5v6v7v8v9u20v1v2v3v4v5v6v7v8v9u30v1v2v3v4v5v6v7v8v9u40
v1v2v3v4v5v6v7v8v9u50v1v2v3v4v5v6v7v8v9u60v1v2v3v4v5v6v7v8v9u70v1v2v3v4v5v6v7v8v9u80v1v2v3v4v5v6v7v8
v9u90v1v2v3v4v5v6v7v8v9t200v1v2v3v4v5v6v7v8v9u10v1v2v3v4v5v6v7v8v9u20v1v2v3v4v5v6v7v8v9u30v1v2v3v4v5
v6v7v8v9u40v1v2v3v4v5v6v7v8v9u50v1v2v3v4v5v6
"

end Scalpel.Text.CharName

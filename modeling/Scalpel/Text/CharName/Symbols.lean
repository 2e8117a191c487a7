import Scalpel.Text.CharName.Table

/-!
The names of punctuation marks, signs for currencies, arrows and the signs of mathematics.
-/

set_option autoImplicit false

namespace Scalpel.Text.CharName

def symbols : String := "
>2000aEN QUADbM QUADbN SPACEbM SPACEaTHREE-PER-EM SPACEaFOUR-PER-EM SPACEaSIX-PER-EM SPACE
aFIGURE SPACEaPUNCTUATION SPACEaTHIN SPACEaHAIR SPACEaZERO WIDTH SPACElNON-JOINERlJOINER
aLEFT-TO-RIGHT MARKaRIGHT-TO-LEFT MARKaHYPHENaNON-BREAKING HYPHENaFIGURE DASHaEN DASHbM DASH
aHORIZONTAL BARaDOUBLE VERTICAL LINEhLOW LINEaLEFT SINGLE QUOTATION MARKaRIGHT SINGLE QUOTATION MARK
aSINGLE LOW-9 QUOTATION MARKhHIGH-REVERSED-9 QUOTATION MARKaLEFT DOUBLE QUOTATION MARK
aRIGHT DOUBLE QUOTATION MARKaDOUBLE LOW-9 QUOTATION MARKhHIGH-REVERSED-9 QUOTATION MARKbAGGER
bOUBLE DAGGERaBULLETaTRIANGULAR BULLETaONE DOT LEADERaTWO DOT LEADERaHORIZONTAL ELLIPSIS
bYPHENATION POINTaLINE SEPARATORaPARAGRAPH SEPARATORaLEFT-TO-RIGHT EMBEDDINGaRIGHT-TO-LEFT EMBEDDING
aPOP DIRECTIONAL FORMATTINGaLEFT-TO-RIGHT OVERRIDEaRIGHT-TO-LEFT OVERRIDEaNARROW NO-BREAK SPACE
aPER MILLE SIGNeTEN THOUSAND SIGNbRIMEaDOUBLE PRIMEaTRIPLE PRIMEaREVERSED PRIMEjDOUBLE PRIME
jTRIPLE PRIMEaCARETaSINGLE LEFT-POINTING ANGLE QUOTATION MARKhRIGHT-POINTING ANGLE QUOTATION MARK
aREFERENCE MARKaDOUBLE EXCLAMATION MARKaINTERROBANGaOVERLINEaUNDERTIEaCHARACTER TIE
bARET INSERTION POINTaASTERISMaHYPHEN BULLETaFRACTION SLASHaLEFT SQUARE BRACKET WITH QUILL
aRIGHT SQUARE BRACKET WITH QUILLaDOUBLE QUESTION MARKaQUESTION EXCLAMATION MARK
aEXCLAMATION QUESTION MARKaTIRONIAN SIGN ETaREVERSED PILCROW SIGNaBLACK LEFTWARDS BULLET
gRIGHTWARDS BULLETaLOW ASTERISKaREVERSED SEMICOLONaCLOSE UPaTWO ASTERISKS ALIGNED VERTICALLY
aCOMMERCIAL MINUS SIGNaSWUNG DASHaINVERTED UNDERTIEaFLOWER PUNCTUATION MARKaTHREE DOT PUNCTUATION
aQUADRUPLE PRIMEaFOUR DOT PUNCTUATIONbIVE DOT PUNCTUATIONaTWO DOT PUNCTUATIONaFOUR DOT MARK
aDOTTED CROSSaTRICOLONaVERTICAL FOUR DOTSaMEDIUM MATHEMATICAL SPACEaWORD JOINERaFUNCTION APPLICATION
aINVISIBLE TIMESkSEPARATORkPLUS>2066aLEFT-TO-RIGHT ISOLATEaRIGHT-TO-LEFT ISOLATE
aFIRST STRONG ISOLATEaPOP DIRECTIONAL ISOLATEaINHIBIT SYMMETRIC SWAPPINGaACTIVATE SYMMETRIC SWAPPING
aINHIBIT ARABIC FORM SHAPINGaACTIVATE ARABIC FORM SHAPINGaNATIONAL DIGIT SHAPESbOMINAL DIGIT SHAPES
aSUPERSCRIPT ZEROmLATIN SMALL LETTER I>2074mFOURnIVEmSIXnEVENmEIGHTmNINEmPLUS SIGNmMINUSmEQUALS SIGN
mLEFT PARENTHESISmRIGHT PARENTHESISmLATIN SMALL LETTER NcBSCRIPT ZEROkONEkTWOlHREEkFOURlIVEkSIXlEVEN
kEIGHTkNINEkPLUS SIGNkMINUSkEQUALS SIGNkLEFT PARENTHESISkRIGHT PARENTHESIS>2090
aLATIN SUBSCRIPT SMALL LETTER AãEãOãXãSCHWAãHãKãLãMãNãPãSãT>20A0aEURO-CURRENCY SIGNaCOLON SIGN
bRUZEIRO SIGNaFRENCH FRANC SIGNaLIRA SIGNaMILL SIGNaNAIRA SIGNaPESETA SIGNaRUPEE SIGNaWON SIGN
aNEW SHEQEL SIGNaDONG SIGNaEURO SIGNaKIP SIGNaTUGRIK SIGNaDRACHMA SIGNaGERMAN PENNY SIGNaPESO SIGN
aGUARANI SIGNaAUSTRAL SIGNaHRYVNIA SIGNaCEDI SIGNaLIVRE TOURNOIS SIGNaSPESMILO SIGNaTENGE SIGN
aINDIAN RUPEE SIGNaTURKISH LIRA SIGNaNORDIC MARK SIGNaMANAT SIGNaRUBLE SIGNaLARI SIGNaBITCOIN SIGN
aSOM SIGN>20D0aCOMBINING LEFT HARPOON ABOVEkRIGHT HARPOON ABOVEkLONG VERTICAL LINE OVERLAY
kSHORT VERTICAL LINE OVERLAYkANTICLOCKWISE ARROW ABOVEkCLOCKWISE ARROW ABOVEkLEFT ARROW ABOVE
kRIGHT ARROW ABOVEmNG OVERLAYkCLOCKWISE RING OVERLAYkANTICLOCKWISE RING OVERLAYkTHREE DOTS ABOVE
kFOUR DOTS ABOVEkENCLOSING CIRCLEuSQUAREuDIAMONDuCIRCLE BACKSLASHkLEFT RIGHT ARROW ABOVE
kENCLOSING SCREENuKEYCAPuUPWARD POINTING TRIANGLEkREVERSE SOLIDUS OVERLAY
kDOUBLE VERTICAL STROKE OVERLAYkANNUITY SYMBOLkTRIPLE UNDERDOTkWIDE BRIDGE ABOVE
kLEFTWARDS ARROW OVERLAYlONG DOUBLE SOLIDUS OVERLAYkRIGHTWARDS HARPOON WITH BARB DOWNWARDS
kLEFTWARDS HARPOON WITH BARB DOWNWARDSo ARROW BELOWkRIGHT ARROW BELOWkASTERISK ABOVE>2100aACCOUNT OF
bDDRESSED TO THE SUBJECTaDOUBLE-STRUCK CAPITAL CbEGREE CELSIUSaCENTRE LINE SYMBOLbARE OFcDA UNA
aEULER CONSTANTaSCRUPLEaDEGREE FAHRENHEITaSCRIPT SMALL GhCAPITAL HaBLACK-LETTER CAPITAL H
aDOUBLE-STRUCK CAPITAL HaPLANCK CONSTANTp OVER TWO PIaSCRIPT CAPITAL IaBLACK-LETTER CAPITAL I
aSCRIPT CAPITAL LhSMALL LaL B BAR SYMBOLaDOUBLE-STRUCK CAPITAL NaNUMERO SIGN
aSOUND RECORDING COPYRIGHTbCRIPT CAPITAL PaDOUBLE-STRUCK CAPITAL PwQaSCRIPT CAPITAL R
aBLACK-LETTER CAPITAL RaDOUBLE-STRUCK CAPITAL RaPRESCRIPTION TAKEaRESPONSEaSERVICE MARK
aTELEPHONE SIGNbRADE MARK SIGNaVERSICLEaDOUBLE-STRUCK CAPITAL ZaOUNCE SIGNbHM SIGNaINVERTED OHM SIGN
aBLACK-LETTER CAPITAL ZaTURNED GREEK SMALL LETTER IOTAaKELVIN SIGNaANGSTROM SIGNaSCRIPT CAPITAL B
aBLACK-LETTER CAPITAL CaESTIMATED SYMBOLaSCRIPT SMALL EhCAPITAL EpFaTURNED CAPITAL F
aSCRIPT CAPITAL MhSMALL OaALEF SYMBOLaBET SYMBOLaGIMEL SYMBOLaDALET SYMBOLaINFORMATION SOURCE
aROTATED CAPITAL QaFACSIMILE SIGNaDOUBLE-STRUCK SMALL PIuGAMMAoCAPITAL GAMMAwPIoN-ARY SUMMATION
aTURNED SANS-SERIF CAPITAL GàLaREVERSED SANS-SERIF CAPITAL LaTURNED SANS-SERIF CAPITAL Y
aDOUBLE-STRUCK ITALIC CAPITAL DvSMALL DáEáIáJaPROPERTY LINEaTURNED AMPERSANDaPER SIGNaAKTIESELSKAB
aTURNED SMALL FaSYMBOL FOR SAMARITAN SOURCEaVULGAR FRACTION ONE SEVENTHuNINTHuTENTHvHIRDqTWO THIRDS
qONE FIFTHqTWO FIFTHSrHREE FIFTHSqFOUR FIFTHSqONE SIXTHqFIVE SIXTHSqONE EIGHTHqTHREE EIGHTHS
qFIVE EIGHTHSqSEVEN EIGHTHSaFRACTION NUMERATOR ONEaROMAN NUMERAL ONEoTWOpHREEoFOURpIVEoSIXpEVEN
oEIGHToNINEoTENoELEVENoTWELVEoFIFTYoONE HUNDREDoFIVE HUNDREDoONE THOUSANDaSMALL ROMAN NUMERAL ONE
uTWOvHREEuFOURvIVEuSIXvEVENuEIGHTuNINEuTENuELEVENuTWELVEuFIFTYuONE HUNDREDuFIVE HUNDREDuONE THOUSAND
aROMAN NUMERAL ONE THOUSAND C DoFIVE THOUSANDoTEN THOUSANDoREVERSED ONE HUNDRED
aLATIN SMALL LETTER REVERSED CaROMAN NUMERAL SIX LATE FORMoFIFTY EARLY FORMuTHOUSAND
oONE HUNDRED THOUSANDaVULGAR FRACTION ZERO THIRDSaTURNED DIGIT TWOoHREE>2190aLEFTWARDS ARROW
aUPWARDS ARROWaRIGHTWARDS ARROWaDOWNWARDS ARROWaLEFT RIGHT ARROWaUP DOWN ARROWaNORTH WEST ARROW
gEAST ARROWaSOUTH EAST ARROWgWEST ARROWaLEFTWARDS ARROW WITH STROKEaRIGHTWARDS ARROW WITH STROKE
aLEFTWARDS WAVE ARROWaRIGHTWARDS WAVE ARROWaLEFTWARDS TWO HEADED ARROWaUPWARDS TWO HEADED ARROW
aRIGHTWARDS TWO HEADED ARROWaDOWNWARDS TWO HEADED ARROWaLEFTWARDS ARROW WITH TAIL
aRIGHTWARDS ARROW WITH TAILaLEFTWARDS ARROW FROM BARaUPWARDS ARROW FROM BAR
aRIGHTWARDS ARROW FROM BARaDOWNWARDS ARROW FROM BARaUP DOWN ARROW WITH BASE
aLEFTWARDS ARROW WITH HOOKaRIGHTWARDS ARROW WITH HOOKaLEFTWARDS ARROW WITH LOOP
aRIGHTWARDS ARROW WITH LOOPaLEFT RIGHT WAVE ARROWlARROW WITH STROKEaDOWNWARDS ZIGZAG ARROW
aUPWARDS ARROW WITH TIP LEFTWARDSxRIGHTWARDSaDOWNWARDS ARROW WITH TIP LEFTWARDSzRIGHTWARDS
aRIGHTWARDS ARROW WITH CORNER DOWNWARDSaDOWNWARDS ARROW WITH CORNER LEFTWARDS
aANTICLOCKWISE TOP SEMICIRCLE ARROWaCLOCKWISE TOP SEMICIRCLE ARROWaNORTH WEST ARROW TO LONG BAR
aLEFTWARDS ARROW TO BAR OVER RIGHTWARDS ARROW TO BARaANTICLOCKWISE OPEN CIRCLE ARROW
aCLOCKWISE OPEN CIRCLE ARROWaLEFTWARDS HARPOON WITH BARB UPWARDSâDOWNWARDS
aUPWARDS HARPOON WITH BARB RIGHTWARDSàLEFTWARDSaRIGHTWARDS HARPOON WITH BARB UPWARDSãDOWNWARDS
aDOWNWARDS HARPOON WITH BARB RIGHTWARDSâLEFTWARDSaRIGHTWARDS ARROW OVER LEFTWARDS ARROW
aUPWARDS ARROW LEFTWARDS OF DOWNWARDS ARROWaLEFTWARDS ARROW OVER RIGHTWARDS ARROWkPAIRED ARROWS
aUPWARDS PAIRED ARROWSaRIGHTWARDS PAIRED ARROWSaDOWNWARDS PAIRED ARROWS
aLEFTWARDS HARPOON OVER RIGHTWARDS HARPOONaRIGHTWARDS HARPOON OVER LEFTWARDS HARPOON
aLEFTWARDS DOUBLE ARROW WITH STROKEe RIGHT DOUBLE ARROW WITH STROKE
aRIGHTWARDS DOUBLE ARROW WITH STROKEaLEFTWARDS DOUBLE ARROWaUPWARDS DOUBLE ARROW
aRIGHTWARDS DOUBLE ARROWaDOWNWARDS DOUBLE ARROWaLEFT RIGHT DOUBLE ARROWaUP DOWN DOUBLE ARROW
aNORTH WEST DOUBLE ARROWgEAST DOUBLE ARROWaSOUTH EAST DOUBLE ARROWgWEST DOUBLE ARROW
aLEFTWARDS TRIPLE ARROWaRIGHTWARDS TRIPLE ARROWaLEFTWARDS SQUIGGLE ARROWaRIGHTWARDS SQUIGGLE ARROW
aUPWARDS ARROW WITH DOUBLE STROKEaDOWNWARDS ARROW WITH DOUBLE STROKEaLEFTWARDS DASHED ARROW
aUPWARDS DASHED ARROWaRIGHTWARDS DASHED ARROWaDOWNWARDS DASHED ARROWaLEFTWARDS ARROW TO BAR
aRIGHTWARDS ARROW TO BARaLEFTWARDS WHITE ARROWaUPWARDS WHITE ARROWaRIGHTWARDS WHITE ARROW
aDOWNWARDS WHITE ARROWaUPWARDS WHITE ARROW FROM BARuON PEDESTALå WITH HORIZONTAL BARëVERTICAL BAR
oDOUBLE ARROWà ON PEDESTALaRIGHTWARDS WHITE ARROW FROM WALLaNORTH WEST ARROW TO CORNER
aSOUTH EAST ARROW TO CORNERaUP DOWN WHITE ARROWaRIGHT ARROW WITH SMALL CIRCLE
aDOWNWARDS ARROW LEFTWARDS OF UPWARDS ARROWaTHREE RIGHTWARDS ARROWS
aLEFTWARDS ARROW WITH VERTICAL STROKEaRIGHTWARDS ARROW WITH VERTICAL STROKE
aLEFT RIGHT ARROW WITH VERTICAL STROKEeWARDS ARROW WITH DOUBLE VERTICAL STROKE
aRIGHTWARDS ARROW WITH DOUBLE VERTICAL STROKEaLEFT RIGHT ARROW WITH DOUBLE VERTICAL STROKE
eWARDS OPEN-HEADED ARROWaRIGHTWARDS OPEN-HEADED ARROWaLEFT RIGHT OPEN-HEADED ARROWaFOR ALL
aCOMPLEMENTaPARTIAL DIFFERENTIALaTHERE EXISTSgDOES NOT EXISTaEMPTY SETaINCREMENTaNABLAaELEMENT OF
aNOT AN ELEMENT OFaSMALL ELEMENT OFaCONTAINS AS MEMBERaDOES NOT CONTAIN AS MEMBER
aSMALL CONTAINS AS MEMBERaEND OF PROOFaN-ARY PRODUCTgCOPRODUCTgSUMMATIONaMINUS SIGNf-OR-PLUS SIGN
aDOT PLUSbIVISION SLASHaSET MINUSaASTERISK OPERATORaRING OPERATORaBULLET OPERATORaSQUARE ROOT
aCUBE ROOTaFOURTH ROOTaPROPORTIONAL TOaINFINITYaRIGHT ANGLEaANGLEaMEASURED ANGLEaSPHERICAL ANGLE
aDIVIDESbOES NOT DIVIDEaPARALLEL TOaNOT PARALLEL TOaLOGICAL ANDiORaINTERSECTIONaUNIONaINTEGRAL
aDOUBLE INTEGRALaTRIPLE INTEGRALaCONTOUR INTEGRALaSURFACE INTEGRALaVOLUME INTEGRAL
aCLOCKWISE INTEGRALkCONTOUR INTEGRALaANTICLOCKWISE CONTOUR INTEGRALaTHEREFOREaBECAUSEaRATIO
aPROPORTIONaDOT MINUSaEXCESSaGEOMETRIC PROPORTIONaHOMOTHETICaTILDE OPERATORaREVERSED TILDE
aINVERTED LAZY SaSINE WAVEaWREATH PRODUCTaNOT TILDEaMINUS TILDEaASYMPTOTICALLY EQUAL TO
aNOT ASYMPTOTICALLY EQUAL TOaAPPROXIMATELY EQUAL TOoBUT NOT ACTUALLY EQUAL TO
aNEITHER APPROXIMATELY NOR ACTUALLY EQUAL TOaALMOST EQUAL TOaNOT ALMOST EQUAL TO
aALMOST EQUAL OR EQUAL TOaTRIPLE TILDEaALL EQUAL TOaEQUIVALENT TOaGEOMETRICALLY EQUIVALENT TO
aDIFFERENCE BETWEENaAPPROACHES THE LIMITaGEOMETRICALLY EQUAL TO
aAPPROXIMATELY EQUAL TO OR THE IMAGE OFaIMAGE OF OR APPROXIMATELY EQUAL TOaCOLON EQUALSaEQUALS COLON
aRING IN EQUAL TOfEQUAL TOaCORRESPONDS TOaESTIMATESbQUIANGULAR TOaSTAR EQUALSaDELTA EQUAL TO
aEQUAL TO BY DEFINITIONaMEASURED BYaQUESTIONED EQUAL TOaNOT EQUAL TOaIDENTICAL TOaNOT IDENTICAL TO
aSTRICTLY EQUIVALENT TOaLESS-THAN OR EQUAL TOaGREATER-THAN OR EQUAL TOaLESS-THAN OVER EQUAL TO
aGREATER-THAN OVER EQUAL TOaLESS-THAN BUT NOT EQUAL TOaGREATER-THAN BUT NOT EQUAL TOaMUCH LESS-THAN
fGREATER-THANaBETWEENaNOT EQUIVALENT TOeLESS-THANeGREATER-THANbEITHER LESS-THAN NOR EQUAL TO
iGREATER-THAN NOR EQUAL TOaLESS-THAN OR EQUIVALENT TOaGREATER-THAN OR EQUIVALENT TO
aNEITHER LESS-THAN NOR EQUIVALENT TOiGREATER-THAN NOR EQUIVALENT TOaLESS-THAN OR GREATER-THAN
aGREATER-THAN OR LESS-THANaNEITHER LESS-THAN NOR GREATER-THANiGREATER-THAN NOR LESS-THANaPRECEDES
aSUCCEEDSaPRECEDES OR EQUAL TOaSUCCEEDS OR EQUAL TOaPRECEDES OR EQUIVALENT TO
aSUCCEEDS OR EQUIVALENT TOaDOES NOT PRECEDEjSUCCEEDaSUBSET OFcPERSET OFaNOT A SUBSET OFiPERSET OF
aSUBSET OF OR EQUAL TOcPERSET OF OR EQUAL TOaNEITHER A SUBSET OF NOR EQUAL TOmPERSET OF NOR EQUAL TO
aSUBSET OF WITH NOT EQUAL TOcPERSET OF WITH NOT EQUAL TOaMULTISETi MULTIPLICATIONjUNION
aSQUARE IMAGE OFhORIGINAL OFhIMAGE OF OR EQUAL TOhORIGINAL OF OR EQUAL TOhCAPiUPaCIRCLED PLUSiMINUS
iTIMESiDIVISION SLASHjOT OPERATORiRING OPERATORiASTERISK OPERATORiEQUALSiDASHaSQUARED PLUSiMINUS
iTIMESiDOT OPERATORaRIGHT TACKaLEFT TACKaDOWN TACKaUP TACKaASSERTIONaMODELSaTRUEaFORCES
aTRIPLE VERTICAL BAR RIGHT TURNSTILEaDOUBLE VERTICAL BAR DOUBLE RIGHT TURNSTILEcES NOT PROVE
aNOT TRUEaDOES NOT FORCEaNEGATED DOUBLE VERTICAL BAR DOUBLE RIGHT TURNSTILEaPRECEDES UNDER RELATION
aSUCCEEDS UNDER RELATIONaNORMAL SUBGROUP OFaCONTAINS AS NORMAL SUBGROUP
aNORMAL SUBGROUP OF OR EQUAL TOaCONTAINS AS NORMAL SUBGROUP OR EQUAL TOaORIGINAL OFaIMAGE OF
aMULTIMAPaHERMITIAN CONJUGATE MATRIXaINTERCALATEaXORaNANDbORaRIGHT ANGLE WITH ARCgTRIANGLE
aN-ARY LOGICAL ANDoORgINTERSECTIONgUNIONaDIAMOND OPERATORbOT OPERATORaSTAR OPERATORaDIVISION TIMES
aBOWTIEaLEFT NORMAL FACTOR SEMIDIRECT PRODUCTaRIGHT NORMAL FACTOR SEMIDIRECT PRODUCT
aLEFT SEMIDIRECT PRODUCTaRIGHT SEMIDIRECT PRODUCTbEVERSED TILDE EQUALSaCURLY LOGICAL ORoAND
aDOUBLE SUBSETjPERSEThINTERSECTIONhUNIONaPITCHFORKaEQUAL AND PARALLEL TOaLESS-THAN WITH DOT
aGREATER-THAN WITH DOTaVERY MUCH LESS-THANkGREATER-THANaLESS-THAN EQUAL TO OR GREATER-THAN
aGREATER-THAN EQUAL TO OR LESS-THANaEQUAL TO OR LESS-THANmGREATER-THANmPRECEDESmSUCCEEDS
aDOES NOT PRECEDE OR EQUALjSUCCEED OR EQUALaNOT SQUARE IMAGE OF OR EQUAL TOlORIGINAL OF OR EQUAL TO
aSQUARE IMAGE OF OR NOT EQUAL TOhORIGINAL OF OR NOT EQUAL TOaLESS-THAN BUT NOT EQUIVALENT TO
aGREATER-THAN BUT NOT EQUIVALENT TOaPRECEDES BUT NOT EQUIVALENT TOaSUCCEEDS BUT NOT EQUIVALENT TO
aNOT NORMAL SUBGROUP OFaDOES NOT CONTAIN AS NORMAL SUBGROUPaNOT NORMAL SUBGROUP OF OR EQUAL TO
aDOES NOT CONTAIN AS NORMAL SUBGROUP OR EQUALaVERTICAL ELLIPSISaMIDLINE HORIZONTAL ELLIPSIS
aUP RIGHT DIAGONAL ELLIPSISaDOWN RIGHT DIAGONAL ELLIPSISaELEMENT OF WITH LONG HORIZONTAL STROKE
qVERTICAL BAR AT END OF HORIZONTAL STROKE
aSMALL ELEMENT OF WITH VERTICAL BAR AT END OF HORIZONTAL STROKEaELEMENT OF WITH DOT ABOVEqOVERBAR
aSMALL ELEMENT OF WITH OVERBARaELEMENT OF WITH UNDERBARqTWO HORIZONTAL STROKES
aCONTAINS WITH LONG HORIZONTAL STROKEoVERTICAL BAR AT END OF HORIZONTAL STROKE
aSMALL CONTAINS WITH VERTICAL BAR AT END OF HORIZONTAL STROKEaCONTAINS WITH OVERBAR
aSMALL CONTAINS WITH OVERBARaZ NOTATION BAG MEMBERSHIPaDIAMETER SIGNaELECTRIC ARROWaHOUSE
aUP ARROWHEADaDOWN ARROWHEADaPROJECTIVEbERSPECTIVEaWAVY LINEaLEFT CEILINGaRIGHT CEILINGaLEFT FLOOR
aRIGHT FLOORaBOTTOM RIGHT CROPhLEFT CROPaTOP RIGHT CROPeLEFT CROPaREVERSED NOT SIGNaSQUARE LOZENGE
aARCaSEGMENTcCTORaTELEPHONE RECORDERaPOSITION INDICATORaVIEWDATA SQUAREaPLACE OF INTEREST SIGN
aTURNED NOT SIGNaWATCHaHOURGLASSaTOP LEFT CORNEReRIGHT CORNERaBOTTOM LEFT CORNERhRIGHT CORNER
aTOP HALF INTEGRALaBOTTOM HALF INTEGRALaFROWNaSMILEaUP ARROWHEAD BETWEEN TWO HORIZONTAL BARS
aOPTION KEYaERASE TO THE RIGHTaX IN A RECTANGLE BOXaKEYBOARDaLEFT-POINTING ANGLE BRACKET
aRIGHT-POINTING ANGLE BRACKETaERASE TO THE LEFTaBENZENE RINGaCYLINDRICITYaALL AROUND-PROFILE
aSYMMETRYaTOTAL RUNOUTaDIMENSION ORIGINaCONICAL TAPERaSLOPEaCOUNTERBOREhSINK
aAPL FUNCTIONAL SYMBOL I-BEAMwSQUISH QUADwQUAD EQUALáDIVIDEãAMONDáJOTáCIRCLEwCIRCLE STILEãJOT
wSLASH BARwBACKSLASH BARwQUAD SLASHáBACKSLASHáLESS-THANáGREATER-THANwLEFTWARDS VANEwRIGHTWARDS VANE
wQUAD LEFTWARDS ARROWáRIGHTWARDS ARROWwCIRCLE BACKSLASHwDOWN TACK UNDERBARxELTA STILE
wQUAD DOWN CARETâELTAwDOWN TACK JOTwUPWARDS VANEwQUAD UPWARDS ARROWwUP TACK OVERBARwDEL STILE
wQUAD UP CARETáDELwUP TACK JOTwDOWNWARDS VANEwQUAD DOWNWARDS ARROWyOTE UNDERBARwDELTA UNDERBAR
xIAMOND UNDERBARwJOT UNDERBARwCIRCLE UNDERBARwUP SHOE JOTwQUOTE QUADwCIRCLE STARwQUAD COLON
wUP TACK DIAERESISwDEL DIAERESISwSTAR DIAERESISwJOT DIAERESISwCIRCLE DIAERESISwDOWN SHOE STILE
wLEFT SHOE STILEwTILDE DIAERESISwGREATER-THAN DIAERESISwCOMMA BARwDEL TILDEwZILDEwSTILE TILDE
xEMICOLON UNDERBARwQUAD NOT EQUALáQUESTIONwDOWN CARET TILDEwUP CARET TILDEwIOTAwRHOwOMEGA
wALPHA UNDERBARwEPSILON UNDERBARwIOTA UNDERBARwOMEGA UNDERBARwALPHAaNOT CHECK MARK
aRIGHT ANGLE WITH DOWNWARDS ZIGZAG ARROWaSHOULDERED OPEN BOXaBELL SYMBOL
aVERTICAL LINE WITH MIDDLE DOTaINSERTION SYMBOLaCONTINUOUS UNDERLINE SYMBOL
aDISCONTINUOUS UNDERLINE SYMBOLaEMPHASIS SYMBOLaCOMPOSITION SYMBOL
aWHITE SQUARE WITH CENTRE VERTICAL LINEaENTER SYMBOLaALTERNATIVE KEY SYMBOLaHELM SYMBOL
aCIRCLED HORIZONTAL BAR WITH NOTCHiTRIANGLE DOWNaBROKEN CIRCLE WITH NORTHWEST ARROWaUNDO SYMBOL
aMONOSTABLE SYMBOLaHYSTERESIS SYMBOLaOPEN-CIRCUIT-OUTPUT H-TYPE SYMBOLuL-TYPE SYMBOL
aPASSIVE-PULL-DOWN-OUTPUT SYMBOLnUP-OUTPUT SYMBOLaDIRECT CURRENT SYMBOL FORM TWO
aSOFTWARE-FUNCTION SYMBOLaAPL FUNCTIONAL SYMBOL QUADaDECIMAL SEPARATOR KEY SYMBOLaPREVIOUS PAGE
aNEXT PAGEaPRINT SCREEN SYMBOLaCLEAR SCREEN SYMBOLaLEFT PARENTHESIS UPPER HOOKrEXTENSIONrLOWER HOOK
aRIGHT PARENTHESIS UPPER HOOKsEXTENSIONsLOWER HOOKaLEFT SQUARE BRACKET UPPER CORNERuEXTENSION
uLOWER CORNERaRIGHT SQUARE BRACKET UPPER CORNERvEXTENSIONvLOWER CORNERaLEFT CURLY BRACKET UPPER HOOK
tMIDDLE PIECEtLOWER HOOKaCURLY BRACKET EXTENSIONaRIGHT CURLY BRACKET UPPER HOOKuMIDDLE PIECE
uLOWER HOOKaINTEGRAL EXTENSIONaHORIZONTAL LINE EXTENSION
aUPPER LEFT OR LOWER RIGHT CURLY BRACKET SECTIONgRIGHT OR LOWER LEFT CURLY BRACKET SECTION
aSUMMATION TOPkBOTTOMaTOP SQUARE BRACKETaBOTTOM SQUARE BRACKETv OVER TOP SQUARE BRACKET
aRADICAL SYMBOL BOTTOMaLEFT VERTICAL BOX LINEaRIGHT VERTICAL BOX LINEaHORIZONTAL SCAN LINE-1v3v7v9
aDENTISTRY SYMBOL LIGHT VERTICAL AND TOP RIGHTêBOTTOM RIGHTæWITH CIRCLE
xDOWN AND HORIZONTAL WITH CIRCLExUP AND HORIZONTAL WITH CIRCLExVERTICAL WITH TRIANGLE
xDOWN AND HORIZONTAL WITH TRIANGLExUP AND HORIZONTAL WITH TRIANGLExVERTICAL AND WAVE
xDOWN AND HORIZONTAL WITH WAVExUP AND HORIZONTAL WITH WAVExDOWN AND HORIZONTALxUP AND HORIZONTAL
xVERTICAL AND TOP LEFTêBOTTOM LEFTaSQUARE FOOTaRETURN SYMBOLaEJECT SYMBOLaVERTICAL LINE EXTENSION
aMETRICAL BREVEjLONG OVER SHORTjSHORT OVER LONGjLONG OVER TWO SHORTSjTWO SHORTS OVER LONGuJOINED
kRISEMEkETRASEMEjPENTASEMEaEARTH GROUNDaFUSEaTOP PARENTHESISaBOTTOM PARENTHESISaTOP CURLY BRACKET
aBOTTOM CURLY BRACKETaTOP TORTOISE SHELL BRACKETaBOTTOM TORTOISE SHELL BRACKETaWHITE TRAPEZIUM
aBENZENE RING WITH CIRCLEaSTRAIGHTNESSaFLATNESSaAC CURRENTaELECTRICAL INTERSECTION
aDECIMAL EXPONENT SYMBOLaBLACK RIGHT-POINTING DOUBLE TRIANGLEgLEFT-POINTING DOUBLE TRIANGLE
gUP-POINTING DOUBLE TRIANGLEgDOWN-POINTING DOUBLE TRIANGLE
gRIGHT-POINTING DOUBLE TRIANGLE WITH VERTICAL BARgLEFT-POINTING DOUBLE TRIANGLE WITH VERTICAL BAR
gRIGHT-POINTING TRIANGLE WITH DOUBLE VERTICAL BARaALARM CLOCKaSTOPWATCHaTIMER CLOCK
aHOURGLASS WITH FLOWING SANDaBLACK MEDIUM LEFT-POINTING TRIANGLEnRIGHT-POINTING TRIANGLE
nUP-POINTING TRIANGLEnDOWN-POINTING TRIANGLEaDOUBLE VERTICAL BARaBLACK SQUARE FOR STOP
gCIRCLE FOR RECORDaPOWER SYMBOLgON-OFF SYMBOLi SYMBOLgSLEEP SYMBOLaOBSERVER EYE SYMBOL
aSYMBOL FOR NULLlSTART OF HEADINGuTEXTlEND OF TEXTtRANSMISSIONnQUIRYlACKNOWLEDGElBELLmACKSPACE
lHORIZONTAL TABULATIONlLINE FEEDlVERTICAL TABULATIONlFORM FEEDlCARRIAGE RETURNlSHIFT OUTrIN
lDATA LINK ESCAPEmEVICE CONTROL ONEàTWOáHREEàFOURlNEGATIVE ACKNOWLEDGElSYNCHRONOUS IDLE
lEND OF TRANSMISSION BLOCKlCANCELlEND OF MEDIUMlSUBSTITUTElESCAPElFILE SEPARATORlGROUP SEPARATOR
lRECORD SEPARATORlUNIT SEPARATORlSPACElDELETEaBLANK SYMBOLaOPEN BOXaSYMBOL FOR NEWLINE
lDELETE FORM TWOlSUBSTITUTE FORM TWO>2440aOCR HOOKeCHAIReFORKeINVERTED FORKeBELT BUCKLEfOW TIE
fRANCH BANK IDENTIFICATIONeAMOUNT OF CHECKeDASHeCUSTOMER ACCOUNT NUMBEReDOUBLE BACKSLASH>2460
aCIRCLED DIGIT ONEoTWOpHREEoFOURpIVEoSIXpEVENoEIGHToNINEiNUMBER TENpELEVENpTWELVEqHIRTEENpFOURTEEN
qIFTEENpSIXTEENqEVENTEENpEIGHTEENpNINETEENpTWENTYaPARENTHESIZED DIGIT ONEuTWOvHREEuFOURvIVEuSIXvEVEN
uEIGHTuNINEoNUMBER TENvELEVENvTWELVEwHIRTEENvFOURTEENwIFTEENvSIXTEENwEVENTEENvEIGHTEENvNINETEEN
vTWENTYaDIGIT ONE FULL STOPgTWO FULL STOPhHREE FULL STOPgFOUR FULL STOPhIVE FULL STOPgSIX FULL STOP
hEVEN FULL STOPgEIGHT FULL STOPgNINE FULL STOPaNUMBER TEN FULL STOPhELEVEN FULL STOP
hTWELVE FULL STOPiHIRTEEN FULL STOPhFOURTEEN FULL STOPiIFTEEN FULL STOPhSIXTEEN FULL STOP
iEVENTEEN FULL STOPhEIGHTEEN FULL STOPhNINETEEN FULL STOPhTWENTY FULL STOP
aPARENTHESIZED LATIN SMALL LETTER AçBçCçDçEçFçGçHçIçJçKçLçMçNçOçPçQçRçSçTçUçVçWçXçYçZ
aCIRCLED LATIN CAPITAL LETTER AãBãCãDãEãFãGãHãIãJãKãLãMãNãOãPãQãRãSãTãUãVãWãXãYãZoSMALL LETTER AáBáC
áDáEáFáGáHáIáJáKáLáMáNáOáPáQáRáSáTáUáVáWáXáYáZiDIGIT ZEROaNEGATIVE CIRCLED NUMBER ELEVENyTWELVE
zHIRTEENyFOURTEENzIFTEENySIXTEENzEVENTEENyEIGHTEENyNINETEENyTWENTYaDOUBLE CIRCLED DIGIT ONEvTWOwHREE
vFOURwIVEvSIXwEVENvEIGHTvNINEpNUMBER TENaNEGATIVE CIRCLED DIGIT ZEROaBOX DRAWINGS LIGHT HORIZONTAL
nHEAVY HORIZONTALnLIGHT VERTICALnHEAVY VERTICALnLIGHT TRIPLE DASH HORIZONTAL
nHEAVY TRIPLE DASH HORIZONTALnLIGHT TRIPLE DASH VERTICALnHEAVY TRIPLE DASH VERTICAL
nLIGHT QUADRUPLE DASH HORIZONTALnHEAVY QUADRUPLE DASH HORIZONTALnLIGHT QUADRUPLE DASH VERTICAL
nHEAVY QUADRUPLE DASH VERTICALnLIGHT DOWN AND RIGHTnDOWN LIGHT AND RIGHT HEAVYsHEAVY AND RIGHT LIGHT
nHEAVY DOWN AND RIGHTnLIGHT DOWN AND LEFTnDOWN LIGHT AND LEFT HEAVYsHEAVY AND LEFT LIGHT
nHEAVY DOWN AND LEFTnLIGHT UP AND RIGHTnUP LIGHT AND RIGHT HEAVYqHEAVY AND RIGHT LIGHT
nHEAVY UP AND RIGHTnLIGHT UP AND LEFTnUP LIGHT AND LEFT HEAVYqHEAVY AND LEFT LIGHTnHEAVY UP AND LEFT
nLIGHT VERTICAL AND RIGHTnVERTICAL LIGHT AND RIGHT HEAVYnUP HEAVY AND RIGHT DOWN LIGHT
nDOWN HEAVY AND RIGHT UP LIGHTnVERTICAL HEAVY AND RIGHT LIGHTnDOWN LIGHT AND RIGHT UP HEAVY
nUP LIGHT AND RIGHT DOWN HEAVYnHEAVY VERTICAL AND RIGHTnLIGHT VERTICAL AND LEFT
nVERTICAL LIGHT AND LEFT HEAVYnUP HEAVY AND LEFT DOWN LIGHTnDOWN HEAVY AND LEFT UP LIGHT
nVERTICAL HEAVY AND LEFT LIGHTnDOWN LIGHT AND LEFT UP HEAVYnUP LIGHT AND LEFT DOWN HEAVY
nHEAVY VERTICAL AND LEFTnLIGHT DOWN AND HORIZONTALoEFT HEAVY AND RIGHT DOWN LIGHT
nRIGHT HEAVY AND LEFT DOWN LIGHTnDOWN LIGHT AND HORIZONTAL HEAVYsHEAVY AND HORIZONTAL LIGHT
nRIGHT LIGHT AND LEFT DOWN HEAVYnLEFT LIGHT AND RIGHT DOWN HEAVYnHEAVY DOWN AND HORIZONTAL
nLIGHT UP AND HORIZONTALoEFT HEAVY AND RIGHT UP LIGHTnRIGHT HEAVY AND LEFT UP LIGHT
nUP LIGHT AND HORIZONTAL HEAVYqHEAVY AND HORIZONTAL LIGHTnRIGHT LIGHT AND LEFT UP HEAVY
nLEFT LIGHT AND RIGHT UP HEAVYnHEAVY UP AND HORIZONTALnLIGHT VERTICAL AND HORIZONTAL
oEFT HEAVY AND RIGHT VERTICAL LIGHTnRIGHT HEAVY AND LEFT VERTICAL LIGHT
nVERTICAL LIGHT AND HORIZONTAL HEAVYnUP HEAVY AND DOWN HORIZONTAL LIGHT
nDOWN HEAVY AND UP HORIZONTAL LIGHTnVERTICAL HEAVY AND HORIZONTAL LIGHT
nLEFT UP HEAVY AND RIGHT DOWN LIGHTnRIGHT UP HEAVY AND LEFT DOWN LIGHT
nLEFT DOWN HEAVY AND RIGHT UP LIGHTnRIGHT DOWN HEAVY AND LEFT UP LIGHT
nDOWN LIGHT AND UP HORIZONTAL HEAVYnUP LIGHT AND DOWN HORIZONTAL HEAVY
nRIGHT LIGHT AND LEFT VERTICAL HEAVYnLEFT LIGHT AND RIGHT VERTICAL HEAVY
nHEAVY VERTICAL AND HORIZONTALnLIGHT DOUBLE DASH HORIZONTALnHEAVY DOUBLE DASH HORIZONTAL
nLIGHT DOUBLE DASH VERTICALnHEAVY DOUBLE DASH VERTICALnDOUBLE HORIZONTALuVERTICAL
pWN SINGLE AND RIGHT DOUBLEsDOUBLE AND RIGHT SINGLEpUBLE DOWN AND RIGHTpWN SINGLE AND LEFT DOUBLE
sDOUBLE AND LEFT SINGLEpUBLE DOWN AND LEFTnUP SINGLE AND RIGHT DOUBLEqDOUBLE AND RIGHT SINGLE
nDOUBLE UP AND RIGHTnUP SINGLE AND LEFT DOUBLEqDOUBLE AND LEFT SINGLEnDOUBLE UP AND LEFT
nVERTICAL SINGLE AND RIGHT DOUBLEwDOUBLE AND RIGHT SINGLEnDOUBLE VERTICAL AND RIGHT
nVERTICAL SINGLE AND LEFT DOUBLEwDOUBLE AND LEFT SINGLEnDOUBLE VERTICAL AND LEFT
pWN SINGLE AND HORIZONTAL DOUBLEsDOUBLE AND HORIZONTAL SINGLEpUBLE DOWN AND HORIZONTAL
nUP SINGLE AND HORIZONTAL DOUBLEqDOUBLE AND HORIZONTAL SINGLEnDOUBLE UP AND HORIZONTAL
nVERTICAL SINGLE AND HORIZONTAL DOUBLEwDOUBLE AND HORIZONTAL SINGLEnDOUBLE VERTICAL AND HORIZONTAL
nLIGHT ARC DOWN AND RIGHTæLEFTxUP AND LEFTäRIGHTtDIAGONAL UPPER RIGHT TO LOWER LEFT
èLEFT TO LOWER RIGHTâCROSStLEFTtUPtRIGHTtDOWNnHEAVY LEFTtUPtRIGHTtDOWNnLIGHT LEFT AND HEAVY RIGHT
tUP AND HEAVY DOWNnHEAVY LEFT AND LIGHT RIGHTtUP AND LIGHT DOWNaUPPER HALF BLOCK
aLOWER ONE EIGHTH BLOCKkQUARTER BLOCKgTHREE EIGHTHS BLOCKgHALF BLOCKgFIVE EIGHTHS BLOCK
gTHREE QUARTERS BLOCKgSEVEN EIGHTHS BLOCKaFULL BLOCKaLEFT SEVEN EIGHTHS BLOCKfTHREE QUARTERS BLOCK
fFIVE EIGHTHS BLOCKfHALF BLOCKfTHREE EIGHTHS BLOCKfONE QUARTER BLOCKjEIGHTH BLOCKaRIGHT HALF BLOCK
aLIGHT SHADEaMEDIUM SHADEaDARK SHADEaUPPER ONE EIGHTH BLOCKaRIGHT ONE EIGHTH BLOCK
aQUADRANT LOWER LEFTpRIGHTjUPPER LEFTt AND LOWER LEFT AND LOWER RIGHTäRIGHT
yUPPER RIGHT AND LOWER LEFTôRIGHTpRIGHTu AND LOWER LEFTé AND LOWER RIGHTaBLACK SQUAREaWHITE SQUARE
m WITH ROUNDED CORNERSnCONTAINING BLACK SMALL SQUAREaSQUARE WITH HORIZONTAL FILLmVERTICAL FILL
mORTHOGONAL CROSSHATCH FILLmUPPER LEFT TO LOWER RIGHT FILLsRIGHT TO LOWER LEFT FILL
mDIAGONAL CROSSHATCH FILLaBLACK SMALL SQUAREaWHITE SMALL SQUAREaBLACK RECTANGLEaWHITE RECTANGLE
aBLACK VERTICAL RECTANGLEaWHITE VERTICAL RECTANGLEaBLACK PARALLELOGRAMaWHITE PARALLELOGRAM
aBLACK UP-POINTING TRIANGLEaWHITE UP-POINTING TRIANGLEaBLACK UP-POINTING SMALL TRIANGLE
aWHITE UP-POINTING SMALL TRIANGLEaBLACK RIGHT-POINTING TRIANGLEaWHITE RIGHT-POINTING TRIANGLE
aBLACK RIGHT-POINTING SMALL TRIANGLEaWHITE RIGHT-POINTING SMALL TRIANGLE
aBLACK RIGHT-POINTING POINTERaWHITE RIGHT-POINTING POINTERaBLACK DOWN-POINTING TRIANGLE
aWHITE DOWN-POINTING TRIANGLEaBLACK DOWN-POINTING SMALL TRIANGLEaWHITE DOWN-POINTING SMALL TRIANGLE
aBLACK LEFT-POINTING TRIANGLEaWHITE LEFT-POINTING TRIANGLEaBLACK LEFT-POINTING SMALL TRIANGLE
aWHITE LEFT-POINTING SMALL TRIANGLEaBLACK LEFT-POINTING POINTERaWHITE LEFT-POINTING POINTER
aBLACK DIAMONDaWHITE DIAMONDn CONTAINING BLACK SMALL DIAMONDaFISHEYEaLOZENGEaWHITE CIRCLE
aDOTTED CIRCLEaCIRCLE WITH VERTICAL FILLaBULLSEYEbLACK CIRCLEaCIRCLE WITH LEFT HALF BLACK
mRIGHT HALF BLACKmLOWER HALF BLACKmUPPER HALF BLACKsRIGHT QUADRANT BLACK
mALL BUT UPPER LEFT QUADRANT BLACKaLEFT HALF BLACK CIRCLEaRIGHT HALF BLACK CIRCLEaINVERSE BULLET
iWHITE CIRCLEaUPPER HALF INVERSE WHITE CIRCLEaLOWER HALF INVERSE WHITE CIRCLE
aUPPER LEFT QUADRANT CIRCULAR ARCgRIGHT QUADRANT CIRCULAR ARCaLOWER RIGHT QUADRANT CIRCULAR ARC
gLEFT QUADRANT CIRCULAR ARCaUPPER HALF CIRCLEaLOWER HALF CIRCLEaBLACK LOWER RIGHT TRIANGLE
mLEFT TRIANGLEgUPPER LEFT TRIANGLEmRIGHT TRIANGLEaWHITE BULLETaSQUARE WITH LEFT HALF BLACK
mRIGHT HALF BLACKmUPPER LEFT DIAGONAL HALF BLACKmLOWER RIGHT DIAGONAL HALF BLACK
aWHITE SQUARE WITH VERTICAL BISECTING LINEgUP-POINTING TRIANGLE WITH DOT
aUP-POINTING TRIANGLE WITH LEFT HALF BLACKàRIGHT HALF BLACKaLARGE CIRCLE
aWHITE SQUARE WITH UPPER LEFT QUADRANTsLOWER LEFT QUADRANTyRIGHT QUADRANTsUPPER RIGHT QUADRANT
gCIRCLE WITH UPPER LEFT QUADRANTsLOWER LEFT QUADRANTyRIGHT QUADRANTsUPPER RIGHT QUADRANT
aUPPER LEFT TRIANGLEgRIGHT TRIANGLEaLOWER LEFT TRIANGLEaWHITE MEDIUM SQUAREaBLACK MEDIUM SQUARE
aWHITE MEDIUM SMALL SQUAREaBLACK MEDIUM SMALL SQUAREaLOWER RIGHT TRIANGLEaBLACK SUN WITH RAYSaCLOUD
aUMBRELLAaSNOWMANaCOMETaBLACK STARaWHITE STARaLIGHTNINGaTHUNDERSTORMaSUNaASCENDING NODE
aDESCENDING NODEaCONJUNCTIONaOPPOSITIONaBLACK TELEPHONEaWHITE TELEPHONEaBALLOT BOXk WITH CHECKqX
aSALTIREaUMBRELLA WITH RAIN DROPSaHOT BEVERAGEaWHITE SHOGI PIECEaBLACK SHOGI PIECEaSHAMROCK
aREVERSED ROTATED FLORAL HEART BULLETaBLACK LEFT POINTING INDEXgRIGHT POINTING INDEX
aWHITE LEFT POINTING INDEXgUP POINTING INDEXgRIGHT POINTING INDEXgDOWN POINTING INDEX
aSKULL AND CROSSBONESaCAUTION SIGNaRADIOACTIVE SIGNaBIOHAZARD SIGNaCADUCEUSaANKHaORTHODOX CROSS
aCHI RHObROSS OF LORRAINEjJERUSALEMaSTAR AND CRESCENTaFARSI SYMBOLaADI SHAKTIaHAMMER AND SICKLE
aPEACE SYMBOLaYIN YANGaTRIGRAM FOR HEAVENmLAKEmFIREmTHUNDERmWINDnATERmMOUNTAINmEARTHaWHEEL OF DHARMA
cITE FROWNING FACEgSMILING FACEaBLACK SMILING FACEaWHITE SUN WITH RAYSaFIRST QUARTER MOON
aLAST QUARTER MOONaMERCURYaFEMALE SIGNaEARTHaMALE SIGNaJUPITERaSATURNaURANUSaNEPTUNEaPLUTOaARIES
aTAURUSaGEMINIaCANCERaLEOaVIRGOaLIBRAaSCORPIUSbAGITTARIUSaCAPRICORNaAQUARIUSaPISCESaWHITE CHESS KING
mQUEENmROOKmBISHOPmKNIGHTmPAWNaBLACK CHESS KINGmQUEENmROOKmBISHOPmKNIGHTmPAWNgSPADE SUIT
aWHITE HEART SUITgDIAMOND SUITaBLACK CLUB SUITaWHITE SPADE SUITaBLACK HEART SUITgDIAMOND SUIT
aWHITE CLUB SUITaHOT SPRINGSaQUARTER NOTEaEIGHTH NOTEaBEAMED EIGHTH NOTEShSIXTEENTH NOTES
aMUSIC FLAT SIGNgNATURAL SIGNgSHARP SIGNaWEST SYRIAC CROSSaEAST SYRIAC CROSS
aUNIVERSAL RECYCLING SYMBOLaRECYCLING SYMBOL FOR TYPE-1 PLASTICSà2 PLASTICSà3 PLASTICSà4 PLASTICS
à5 PLASTICSà6 PLASTICSà7 PLASTICSvGENERIC MATERIALSaBLACK UNIVERSAL RECYCLING SYMBOL
aRECYCLED PAPER SYMBOLaPARTIALLY-RECYCLED PAPER SYMBOLbERMANENT PAPER SIGNaWHEELCHAIR SYMBOL
aDIE FACE-1j2j3j4j5j6aWHITE CIRCLE WITH DOT RIGHTsTWO DOTSaBLACK CIRCLE WITH WHITE DOT RIGHT
sTWO WHITE DOTSaMONOGRAM FOR YANGoINaDIGRAM FOR GREATER YANGlLESSER YINtANGlGREATER YINaWHITE FLAG
aBLACK FLAGaHAMMER AND PICKaANCHORaCROSSED SWORDSaSTAFF OF AESCULAPIUSbCALESaALEMBICaFLOWERaGEAR
aSTAFF OF HERMESaATOM SYMBOLaFLEUR-DE-LISaOUTLINED WHITE STARaTHREE LINES CONVERGING RIGHTxLEFT
aWARNING SIGNaHIGH VOLTAGE SIGNaDOUBLED FEMALE SIGNiMALE SIGNaINTERLOCKED FEMALE AND MALE SIGN
aMALE AND FEMALE SIGNfWITH STROKE SIGNrAND MALE AND FEMALE SIGNaVERTICAL MALE WITH STROKE SIGN
aHORIZONTAL MALE WITH STROKE SIGNaMEDIUM WHITE CIRCLEhBLACK CIRCLEhSMALL WHITE CIRCLEbARRIAGE SYMBOL
aDIVORCE SYMBOLaUNMARRIED PARTNERSHIP SYMBOLaCOFFINaFUNERAL URNaNEUTERaCERESaPALLASaJUNOaVESTA
aCHIRONaBLACK MOON LILITHaSEXTILEcMISEXTILEaQUINCUNXaSESQUIQUADRATEbOCCER BALLaBASEBALLaSQUARED KEY
aWHITE DRAUGHTS MANpKINGaBLACK DRAUGHTS MANpKINGaSNOWMAN WITHOUT SNOWbUN BEHIND CLOUDaRAIN
aBLACK SNOWMANaTHUNDER CLOUD AND RAINbURNED WHITE SHOGI PIECEhBLACK SHOGI PIECE
aWHITE DIAMOND IN SQUAREaCROSSING LANESaDISABLED CARaOPHIUCHUSaPICKaCAR SLIDING
aHELMET WITH WHITE CROSSaCIRCLED CROSSING LANESbHAINSaNO ENTRYaALTERNATE ONE-WAY LEFT WAY TRAFFIC
aBLACK TWO-WAY LEFT WAY TRAFFICaWHITE TWO-WAY LEFT WAY TRAFFICaBLACK LEFT LANE MERGE
aWHITE LEFT LANE MERGEaDRIVE SLOW SIGNaHEAVY WHITE DOWN-POINTING TRIANGLEaLEFT CLOSED ENTRY
aSQUARED SALTIREaFALLING DIAGONAL IN WHITE CIRCLE IN BLACK SQUAREaBLACK TRUCK
aRESTRICTED LEFT ENTRY-1w2aASTRONOMICAL SYMBOL FOR URANUS
aHEAVY CIRCLE WITH STROKE AND TWO DOTS ABOVEaPENTAGRAMaRIGHT-HANDED INTERLACED PENTAGRAM
aLEFT-HANDED INTERLACED PENTAGRAMaINVERTED PENTAGRAMaBLACK CROSS ON SHIELDaSHINTO SHRINEaCHURCH
bASTLEaHISTORIC SITEaGEAR WITHOUT HUBj HANDLESaMAP SYMBOL FOR LIGHTHOUSEbOUNTAINaUMBRELLA ON GROUND
aFOUNTAINbLAG IN HOLEbERRYaSAILBOATbQUARE FOUR CORNERSbKIERaICE SKATEaPERSON WITH BALLaTENT
aJAPANESE BANK SYMBOLaHEADSTONE GRAVEYARD SYMBOLaFUEL PUMPaCUP ON BLACK SQUARE
aWHITE FLAG WITH HORIZONTAL MIDDLE BLACK STRIPEaBLACK SAFETY SCISSORSaUPPER BLADE SCISSORS
aBLACK SCISSORSaLOWER BLADE SCISSORSaWHITE SCISSORSgHEAVY CHECK MARKaTELEPHONE LOCATION SIGN
bAPE DRIVEaAIRPLANEaENVELOPEaRAISED FISThHANDaVICTORY HANDaWRITING HANDaLOWER RIGHT PENCILaPENCIL
aUPPER RIGHT PENCILaWHITE NIBaBLACK NIBaCHECK MARKaHEAVY CHECK MARKaMULTIPLICATION X
aHEAVY MULTIPLICATION XaBALLOT XaHEAVY BALLOT XaOUTLINED GREEK CROSSaHEAVY GREEK CROSS
aOPEN CENTRE CROSSaHEAVY OPEN CENTRE CROSSaLATIN CROSSaSHADOWED WHITE LATIN CROSS
aOUTLINED LATIN CROSSaMALTESE CROSSaSTAR OF DAVIDaFOUR TEARDROP-SPOKED ASTERISK
fBALLOON-SPOKED ASTERISKaHEAVY FOUR BALLOON-SPOKED ASTERISKaFOUR CLUB-SPOKED ASTERISK
aBLACK FOUR POINTED STARaWHITE FOUR POINTED STARaSPARKLESbTRESS OUTLINED WHITE STAR
aCIRCLED WHITE STARaOPEN CENTRE BLACK STARaBLACK CENTRE WHITE STARaOUTLINED BLACK STAR
aHEAVY OUTLINED BLACK STARaPINWHEEL STARaSHADOWED WHITE STARaHEAVY ASTERISKaOPEN CENTRE ASTERISK
aEIGHT SPOKED ASTERISKgPOINTED BLACK STARoPINWHEEL STARaSIX POINTED BLACK STAR
aEIGHT POINTED RECTILINEAR BLACK STARaHEAVY EIGHT POINTED RECTILINEAR BLACK STAR
aTWELVE POINTED BLACK STARaSIXTEEN POINTED ASTERISKaTEARDROP-SPOKED ASTERISK
aOPEN CENTRE TEARDROP-SPOKED ASTERISKaHEAVY TEARDROP-SPOKED ASTERISK
aSIX PETALLED BLACK AND WHITE FLORETTEaBLACK FLORETTEaWHITE FLORETTE
aEIGHT PETALLED OUTLINED BLACK FLORETTEaCIRCLED OPEN CENTRE EIGHT POINTED STAR
aHEAVY TEARDROP-SPOKED PINWHEEL ASTERISKaSNOWFLAKEaTIGHT TRIFOLIATE SNOWFLAKE
aHEAVY CHEVRON SNOWFLAKEaSPARKLEaHEAVY SPARKLEaBALLOON-SPOKED ASTERISK
aEIGHT TEARDROP-SPOKED PROPELLER ASTERISKaHEAVY EIGHT TEARDROP-SPOKED PROPELLER ASTERISKaCROSS MARK
aSHADOWED WHITE CIRCLEaNEGATIVE SQUARED CROSS MARKaLOWER RIGHT DROP-SHADOWED WHITE SQUARE
aUPPER RIGHT DROP-SHADOWED WHITE SQUAREaLOWER RIGHT SHADOWED WHITE SQUARE
aUPPER RIGHT SHADOWED WHITE SQUAREaBLACK QUESTION MARK ORNAMENTaWHITE QUESTION MARK ORNAMENT
gEXCLAMATION MARK ORNAMENTaBLACK DIAMOND MINUS WHITE XaHEAVY EXCLAMATION MARK SYMBOL
aLIGHT VERTICAL BARaMEDIUM VERTICAL BARaHEAVY VERTICAL BAR
gSINGLE TURNED COMMA QUOTATION MARK ORNAMENTnCOMMA QUOTATION MARK ORNAMENT
gDOUBLE TURNED COMMA QUOTATION MARK ORNAMENTnCOMMA QUOTATION MARK ORNAMENT
gLOW SINGLE COMMA QUOTATION MARK ORNAMENTkDOUBLE COMMA QUOTATION MARK ORNAMENT
aCURVED STEM PARAGRAPH SIGN ORNAMENTaHEAVY EXCLAMATION MARK ORNAMENTgHEART EXCLAMATION MARK ORNAMENT
gBLACK HEARTaROTATED HEAVY BLACK HEART BULLETaFLORAL HEARTaROTATED FLORAL HEART BULLET
aMEDIUM LEFT PARENTHESIS ORNAMENThRIGHT PARENTHESIS ORNAMENThFLATTENED LEFT PARENTHESIS ORNAMENT
rRIGHT PARENTHESIS ORNAMENThLEFT-POINTING ANGLE BRACKET ORNAMENT
hRIGHT-POINTING ANGLE BRACKET ORNAMENTaHEAVY LEFT-POINTING ANGLE QUOTATION MARK ORNAMENT
gRIGHT-POINTING ANGLE QUOTATION MARK ORNAMENTgLEFT-POINTING ANGLE BRACKET ORNAMENT
gRIGHT-POINTING ANGLE BRACKET ORNAMENTaLIGHT LEFT TORTOISE SHELL BRACKET ORNAMENT
gRIGHT TORTOISE SHELL BRACKET ORNAMENTaMEDIUM LEFT CURLY BRACKET ORNAMENT
hRIGHT CURLY BRACKET ORNAMENTaDINGBAT NEGATIVE CIRCLED DIGIT ONEåTWOæHREEåFOURæIVEåSIXæEVENåEIGHT
åNINEzNUMBER TENiCIRCLED SANS-SERIF DIGIT ONEçTWOèHREEçFOURèIVEçSIXèEVENçEIGHTçNINEáNUMBER TEN
iNEGATIVE CIRCLED SANS-SERIF DIGIT ONEðTWOñHREEðFOURñIVEðSIXñEVENðEIGHTðNINEêNUMBER TEN
aHEAVY WIDE-HEADED RIGHTWARDS ARROWgPLUS SIGNgMINUS SIGNgDIVISION SIGNgSOUTH EAST ARROW
gRIGHTWARDS ARROWgNORTH EAST ARROWaDRAFTING POINT RIGHTWARDS ARROW
aHEAVY ROUND-TIPPED RIGHTWARDS ARROWaTRIANGLE-HEADED RIGHTWARDS ARROW
aHEAVY TRIANGLE-HEADED RIGHTWARDS ARROWaDASHED TRIANGLE-HEADED RIGHTWARDS ARROW
aHEAVY DASHED TRIANGLE-HEADED RIGHTWARDS ARROWaBLACK RIGHTWARDS ARROW
aTHREE-D TOP-LIGHTED RIGHTWARDS ARROWHEADiBOTTOM-LIGHTED RIGHTWARDS ARROWHEAD
aBLACK RIGHTWARDS ARROWHEADaHEAVY BLACK CURVED DOWNWARDS AND RIGHTWARDS ARROW
tUPWARDS AND RIGHTWARDS ARROWaSQUAT BLACK RIGHTWARDS ARROW
aHEAVY CONCAVE-POINTED BLACK RIGHTWARDS ARROWaRIGHT-SHADED WHITE RIGHTWARDS ARROW
aLEFT-SHADED WHITE RIGHTWARDS ARROWaBACK-TILTED SHADOWED WHITE RIGHTWARDS ARROW
aFRONT-TILTED SHADOWED WHITE RIGHTWARDS ARROWaHEAVY LOWER RIGHT-SHADOWED WHITE RIGHTWARDS ARROW
gUPPER RIGHT-SHADOWED WHITE RIGHTWARDS ARROWaNOTCHED LOWER RIGHT-SHADOWED WHITE RIGHTWARDS ARROW
aCURLY LOOPaNOTCHED UPPER RIGHT-SHADOWED WHITE RIGHTWARDS ARROWaCIRCLED HEAVY WHITE RIGHTWARDS ARROW
aWHITE-FEATHERED RIGHTWARDS ARROWaBLACK-FEATHERED SOUTH EAST ARROWqRIGHTWARDS ARROWqNORTH EAST ARROW
aHEAVY BLACK-FEATHERED SOUTH EAST ARROWwRIGHTWARDS ARROWwNORTH EAST ARROW
aTEARDROP-BARBED RIGHTWARDS ARROWaHEAVY TEARDROP-SHANKED RIGHTWARDS ARROW
aWEDGE-TAILED RIGHTWARDS ARROWaHEAVY WEDGE-TAILED RIGHTWARDS ARROWaOPEN-OUTLINED RIGHTWARDS ARROW
aDOUBLE CURLY LOOPaTHREE DIMENSIONAL ANGLEaWHITE TRIANGLE CONTAINING SMALL WHITE TRIANGLE
aPERPENDICULARaOPEN SUBSEThPERSETaLEFT S-SHAPED BAG DELIMITERaRIGHT S-SHAPED BAG DELIMITER
aOR WITH DOT INSIDEaREVERSE SOLIDUS PRECEDING SUBSETaSUPERSET PRECEDING SOLIDUS
aVERTICAL BAR WITH HORIZONTAL STROKEaMATHEMATICAL RISING DIAGONALaLONG DIVISION
aMATHEMATICAL FALLING DIAGONALaSQUARED LOGICAL ANDqORaWHITE DIAMOND WITH CENTRED DOTaAND WITH DOT
aELEMENT OF OPENING UPWARDSaLOWER RIGHT CORNER WITH DOTaUPPER LEFT CORNER WITH DOTaLEFT OUTER JOIN
aRIGHT OUTER JOINaFULL OUTER JOINaLARGE UP TACKgDOWN TACKbEFT AND RIGHT DOUBLE TURNSTILEpTACK
fMULTIMAPbONG RIGHT TACKfLEFT TACKaUP TACK WITH CIRCLE ABOVEaLOZENGE DIVIDED BY HORIZONTAL RULE
aWHITE CONCAVE-SIDED DIAMONDá WITH LEFTWARDS TICKçRIGHTWARDS TICKgSQUARE WITH LEFTWARDS TICK
sRIGHTWARDS TICKaMATHEMATICAL LEFT WHITE SQUARE BRACKETnRIGHT WHITE SQUARE BRACKET
nLEFT ANGLE BRACKETnRIGHT ANGLE BRACKETnLEFT DOUBLE ANGLE BRACKETnRIGHT DOUBLE ANGLE BRACKET
nLEFT WHITE TORTOISE SHELL BRACKETnRIGHT WHITE TORTOISE SHELL BRACKETnLEFT FLATTENED PARENTHESIS
nRIGHT FLATTENED PARENTHESISaUPWARDS QUADRUPLE ARROWaDOWNWARDS QUADRUPLE ARROW
aANTICLOCKWISE GAPPED CIRCLE ARROWaCLOCKWISE GAPPED CIRCLE ARROWaRIGHT ARROW WITH CIRCLED PLUS
aLONG LEFTWARDS ARROWfRIGHTWARDS ARROWfLEFT RIGHT ARROWjWARDS DOUBLE ARROWfRIGHTWARDS DOUBLE ARROW
fLEFT RIGHT DOUBLE ARROWjWARDS ARROW FROM BARfRIGHTWARDS ARROW FROM BAR
fLEFTWARDS DOUBLE ARROW FROM BARfRIGHTWARDS DOUBLE ARROW FROM BARqSQUIGGLE ARROW
aBRAILLE PATTERN BLANKqDOTS-1v2v12v3v13v23v123v4v14v24v124v34v134v234v1234v5v15v25v125v35v135v235
v1235v45v145v245v1245v345v1345v2345v12345v6v16v26v126v36v136v236v1236v46v146v246v1246v346v1346v2346
v12346v56v156v256v1256v356v1356v2356v12356v456v1456v2456v12456v3456v13456v23456v123456v7v17v27v127
v37v137v237v1237v47v147v247v1247v347v1347v2347v12347v57v157v257v1257v357v1357v2357v12357v457v1457
v2457v12457v3457v13457v23457v123457v67v167v267v1267v367v1367v2367v12367v467v1467v2467v12467v3467
v13467v23467v123467v567v1567v2567v12567v3567v13567v23567v123567v4567v14567v24567v124567v34567v134567
v234567v1234567v8v18v28v128v38v138v238v1238v48v148v248v1248v348v1348v2348v12348v58v158v258v1258v358
v1358v2358v12358v458v1458v2458v12458v3458v13458v23458v123458v68v168v268v1268v368v1368v2368v12368v468
v1468v2468v12468v3468v13468v23468v123468v568v1568v2568v12568v3568v13568v23568v123568v4568v14568
v24568v124568v34568v134568v234568v1234568v78v178v278v1278v378v1378v2378v12378v478v1478v2478v12478
v3478v13478v23478v123478v578v1578v2578v12578v3578v13578v23578v123578v4578v14578v24578v124578v34578
v134578v234578v1234578v678v1678v2678v12678v3678v13678v23678v123678v4678v14678v24678v124678v34678
v134678v234678v1234678v5678v15678v25678v125678v35678v135678v235678v1235678v45678v145678v245678
v1245678v345678v1345678v2345678v12345678aRIGHTWARDS TWO-HEADED ARROW WITH VERTICAL STROKE
çDOUBLE VERTICAL STROKEaLEFTWARDS DOUBLE ARROW WITH VERTICAL STROKE
aRIGHTWARDS DOUBLE ARROW WITH VERTICAL STROKEaLEFT RIGHT DOUBLE ARROW WITH VERTICAL STROKE
aRIGHTWARDS TWO-HEADED ARROW FROM BARaLEFTWARDS DOUBLE ARROW FROM BAR
aRIGHTWARDS DOUBLE ARROW FROM BARaDOWNWARDS ARROW WITH HORIZONTAL STROKE
aUPWARDS ARROW WITH HORIZONTAL STROKEiTRIPLE ARROWaDOWNWARDS TRIPLE ARROW
aLEFTWARDS DOUBLE DASH ARROWaRIGHTWARDS DOUBLE DASH ARROWaLEFTWARDS TRIPLE DASH ARROW
aRIGHTWARDS TRIPLE DASH ARROWmWO-HEADED TRIPLE DASH ARROWlARROW WITH DOTTED STEM
aUPWARDS ARROW TO BARaDOWNWARDS ARROW TO BARaRIGHTWARDS ARROW WITH TAIL WITH VERTICAL STROKE
æDOUBLE VERTICAL STROKElTWO-HEADED ARROW WITH TAILë WITH VERTICAL STROKEñDOUBLE VERTICAL STROKE
aLEFTWARDS ARROW-TAILaRIGHTWARDS ARROW-TAILaLEFTWARDS DOUBLE ARROW-TAILaRIGHTWARDS DOUBLE ARROW-TAIL
aLEFTWARDS ARROW TO BLACK DIAMONDaRIGHTWARDS ARROW TO BLACK DIAMOND
aLEFTWARDS ARROW FROM BAR TO BLACK DIAMONDaRIGHTWARDS ARROW FROM BAR TO BLACK DIAMOND
aNORTH WEST AND SOUTH EAST ARROWgEAST AND SOUTH WEST ARROWgWEST ARROW WITH HOOKgEAST ARROW WITH HOOK
aSOUTH EAST ARROW WITH HOOKgWEST ARROW WITH HOOKaNORTH WEST ARROW AND NORTH EAST ARROW
gEAST ARROW AND SOUTH EAST ARROWaSOUTH EAST ARROW AND SOUTH WEST ARROW
gWEST ARROW AND NORTH WEST ARROWaRISING DIAGONAL CROSSING FALLING DIAGONAL
aFALLING DIAGONAL CROSSING RISING DIAGONALaSOUTH EAST ARROW CROSSING NORTH EAST ARROW
aNORTH EAST ARROW CROSSING SOUTH EAST ARROWaFALLING DIAGONAL CROSSING NORTH EAST ARROW
aRISING DIAGONAL CROSSING SOUTH EAST ARROWaNORTH EAST ARROW CROSSING NORTH WEST ARROW
gWEST ARROW CROSSING NORTH EAST ARROWaWAVE ARROW POINTING DIRECTLY RIGHT
aARROW POINTING RIGHTWARDS THEN CURVING UPWARDSíDOWNWARDSpDOWNWARDS THEN CURVING LEFTWARDS
ìRIGHTWARDSaRIGHT-SIDE ARC CLOCKWISE ARROWaLEFT-SIDE ARC ANTICLOCKWISE ARROW
aTOP ARC ANTICLOCKWISE ARROWaBOTTOM ARC ANTICLOCKWISE ARROWaTOP ARC CLOCKWISE ARROW WITH MINUS
iANTICLOCKWISE ARROW WITH PLUSaLOWER RIGHT SEMICIRCULAR CLOCKWISE ARROW
gLEFT SEMICIRCULAR ANTICLOCKWISE ARROWaANTICLOCKWISE CLOSED CIRCLE ARROW
aCLOCKWISE CLOSED CIRCLE ARROWaRIGHTWARDS ARROW ABOVE SHORT LEFTWARDS ARROW
aLEFTWARDS ARROW ABOVE SHORT RIGHTWARDS ARROWaSHORT RIGHTWARDS ARROW ABOVE LEFTWARDS ARROW
aRIGHTWARDS ARROW WITH PLUS BELOWaLEFTWARDS ARROW WITH PLUS BELOWaRIGHTWARDS ARROW THROUGH X
aLEFT RIGHT ARROW THROUGH SMALL CIRCLEaUPWARDS TWO-HEADED ARROW FROM SMALL CIRCLE
aLEFT BARB UP RIGHT BARB DOWN HARPOONkDOWN RIGHT BARB UP HARPOON
aUP BARB RIGHT DOWN BARB LEFT HARPOONiLEFT DOWN BARB RIGHT HARPOON
aLEFT BARB UP RIGHT BARB UP HARPOONaUP BARB RIGHT DOWN BARB RIGHT HARPOON
aLEFT BARB DOWN RIGHT BARB DOWN HARPOONaUP BARB LEFT DOWN BARB LEFT HARPOON
aLEFTWARDS HARPOON WITH BARB UP TO BARaRIGHTWARDS HARPOON WITH BARB UP TO BAR
aUPWARDS HARPOON WITH BARB RIGHT TO BARaDOWNWARDS HARPOON WITH BARB RIGHT TO BAR
aLEFTWARDS HARPOON WITH BARB DOWN TO BARaRIGHTWARDS HARPOON WITH BARB DOWN TO BAR
aUPWARDS HARPOON WITH BARB LEFT TO BARaDOWNWARDS HARPOON WITH BARB LEFT TO BAR
aLEFTWARDS HARPOON WITH BARB UP FROM BARaRIGHTWARDS HARPOON WITH BARB UP FROM BAR
aUPWARDS HARPOON WITH BARB RIGHT FROM BARaDOWNWARDS HARPOON WITH BARB RIGHT FROM BAR
aLEFTWARDS HARPOON WITH BARB DOWN FROM BARaRIGHTWARDS HARPOON WITH BARB DOWN FROM BAR
aUPWARDS HARPOON WITH BARB LEFT FROM BARaDOWNWARDS HARPOON WITH BARB LEFT FROM BAR
aLEFTWARDS HARPOON WITH BARB UP ABOVE LEFTWARDS HARPOON WITH BARB DOWN
aUPWARDS HARPOON WITH BARB LEFT BESIDE UPWARDS HARPOON WITH BARB RIGHT
aRIGHTWARDS HARPOON WITH BARB UP ABOVE RIGHTWARDS HARPOON WITH BARB DOWN
aDOWNWARDS HARPOON WITH BARB LEFT BESIDE DOWNWARDS HARPOON WITH BARB RIGHT
aLEFTWARDS HARPOON WITH BARB UP ABOVE RIGHTWARDS HARPOON WITH BARB UP
âDOWN ABOVE RIGHTWARDS HARPOON WITH BARB DOWN
aRIGHTWARDS HARPOON WITH BARB UP ABOVE LEFTWARDS HARPOON WITH BARB UP
ãDOWN ABOVE LEFTWARDS HARPOON WITH BARB DOWNaLEFTWARDS HARPOON WITH BARB UP ABOVE LONG DASH
âDOWN BELOW LONG DASHaRIGHTWARDS HARPOON WITH BARB UP ABOVE LONG DASHãDOWN BELOW LONG DASH
aUPWARDS HARPOON WITH BARB LEFT BESIDE DOWNWARDS HARPOON WITH BARB RIGHT
aDOWNWARDS HARPOON WITH BARB LEFT BESIDE UPWARDS HARPOON WITH BARB RIGHT
aRIGHT DOUBLE ARROW WITH ROUNDED HEADaEQUALS SIGN ABOVE RIGHTWARDS ARROW
aTILDE OPERATOR ABOVE RIGHTWARDS ARROWaLEFTWARDS ARROW ABOVE TILDE OPERATOR
aRIGHTWARDS ARROW ABOVE TILDE OPERATORxALMOST EQUAL TOaLESS-THAN ABOVE LEFTWARDS ARROW
cFTWARDS ARROW THROUGH LESS-THANaGREATER-THAN ABOVE RIGHTWARDS ARROWaSUBSET ABOVE RIGHTWARDS ARROW
aLEFTWARDS ARROW THROUGH SUBSETaSUPERSET ABOVE LEFTWARDS ARROWaLEFT FISH TAILaRIGHT FISH TAIL
aUP FISH TAILaDOWN FISH TAILaTRIPLE VERTICAL BAR DELIMITERaZ NOTATION SPOTlTYPE COLON
aLEFT WHITE CURLY BRACKETaRIGHT WHITE CURLY BRACKETaLEFT WHITE PARENTHESISaRIGHT WHITE PARENTHESIS
aZ NOTATION LEFT IMAGE BRACKETlRIGHT IMAGE BRACKETlLEFT BINDING BRACKETlRIGHT BINDING BRACKET
aLEFT SQUARE BRACKET WITH UNDERBARaRIGHT SQUARE BRACKET WITH UNDERBAR
aLEFT SQUARE BRACKET WITH TICK IN TOP CORNERaRIGHT SQUARE BRACKET WITH TICK IN BOTTOM CORNER
aLEFT SQUARE BRACKET WITH TICK IN BOTTOM CORNERaRIGHT SQUARE BRACKET WITH TICK IN TOP CORNER
aLEFT ANGLE BRACKET WITH DOTaRIGHT ANGLE BRACKET WITH DOTaLEFT ARC LESS-THAN BRACKET
aRIGHT ARC GREATER-THAN BRACKETaDOUBLE LEFT ARC GREATER-THAN BRACKEThRIGHT ARC LESS-THAN BRACKET
aLEFT BLACK TORTOISE SHELL BRACKETaRIGHT BLACK TORTOISE SHELL BRACKETaDOTTED FENCE
aVERTICAL ZIGZAG LINEaMEASURED ANGLE OPENING LEFTaRIGHT ANGLE VARIANT WITH SQUARE
aMEASURED RIGHT ANGLE WITH DOTaANGLE WITH S INSIDEbCUTE ANGLEaSPHERICAL ANGLE OPENING LEFTyUP
aTURNED ANGLEaREVERSED ANGLEaANGLE WITH UNDERBARaREVERSED ANGLE WITH UNDERBAR
aOBLIQUE ANGLE OPENING UPwDOWNaMEASURED ANGLE WITH OPEN ARM ENDING IN ARROW POINTING UP AND RIGHT
ÿAND LEFTüDOWN AND RIGHTÿN AND LEFTüRIGHT AND UPüLEFT AND UPüRIGHT AND DOWNüLEFT AND DOWN
aREVERSED EMPTY SETaEMPTY SET WITH OVERBARpSMALL CIRCLE ABOVEpRIGHT ARROW ABOVEpLEFT ARROW ABOVE
aCIRCLE WITH HORIZONTAL BARgD VERTICAL BARiPARALLELiREVERSE SOLIDUSiPERPENDICULAR
g DIVIDED BY HORIZONTAL BAR AND TOP HALF DIVIDED BY VERTICAL BARhWITH SUPERIMPOSED X
gD ANTICLOCKWISE-ROTATED DIVISION SIGNaUP ARROW THROUGH CIRCLEaCIRCLED WHITE BULLETiBULLETiLESS-THAN
iGREATER-THANg WITH SMALL CIRCLE TO THE RIGHTmTWO HORIZONTAL STROKES TO THE RIGHT
aSQUARED RISING DIAGONAL SLASHiFALLING DIAGONAL SLASHiASTERISKiSMALL CIRCLEjQUAREaTWO JOINED SQUARES
bRIANGLE WITH DOT ABOVEoUNDERBARaS IN TRIANGLEaTRIANGLE WITH SERIFS AT BOTTOM
aRIGHT TRIANGLE ABOVE LEFT TRIANGLEaLEFT TRIANGLE BESIDE VERTICAL BAR
aVERTICAL BAR BESIDE RIGHT TRIANGLEaBOWTIE WITH LEFT HALF BLACKmRIGHT HALF BLACKbLACK BOWTIE
aTIMES WITH LEFT HALF BLACKlRIGHT HALF BLACKaWHITE HOURGLASSaBLACK HOURGLASSaLEFT WIGGLY FENCE
aRIGHT WIGGLY FENCEaLEFT DOUBLE WIGGLY FENCEaRIGHT DOUBLE WIGGLY FENCEaINCOMPLETE INFINITY
aTIE OVER INFINITYaINFINITY NEGATED WITH VERTICAL BARaDOUBLE-ENDED MULTIMAP
aSQUARE WITH CONTOURED OUTLINEaINCREASES ASaSHUFFLE PRODUCTaEQUALS SIGN AND SLANTED PARALLEL
æ WITH TILDE ABOVEaIDENTICAL TO AND SLANTED PARALLELaGLEICH STARKaTHERMODYNAMIC
aDOWN-POINTING TRIANGLE WITH LEFT HALF BLACKâRIGHT HALF BLACKaBLACK DIAMOND WITH DOWN ARROWgLOZENGE
aWHITE CIRCLE WITH DOWN ARROWaBLACK CIRCLE WITH DOWN ARROWaERROR-BARRED WHITE SQUAREnBLACK SQUARE
nWHITE DIAMONDnBLACK DIAMONDnWHITE CIRCLEnBLACK CIRCLEaRULE-DELAYEDbEVERSE SOLIDUS OPERATOR
aSOLIDUS WITH OVERBARaREVERSE SOLIDUS WITH HORIZONTAL STROKEaBIG SOLIDUSeREVERSE SOLIDUSaDOUBLE PLUS
aTRIPLE PLUSaLEFT-POINTING CURVED ANGLE BRACKETaRIGHT-POINTING CURVED ANGLE BRACKETaTINYaMINY
aN-ARY CIRCLED DOT OPERATORoPLUS OPERATORoTIMES OPERATORgUNION OPERATOR WITH DOTàPLUS
gSQUARE INTERSECTION OPERATORnUNION OPERATORaTWO LOGICAL AND OPERATORmOR OPERATOR
aN-ARY TIMES OPERATORaMODULO TWO SUMaSUMMATION WITH INTEGRALaQUADRUPLE INTEGRAL OPERATOR
aFINITE PART INTEGRALaINTEGRAL WITH DOUBLE STROKEjAVERAGE WITH SLASHaCIRCULATION FUNCTION
aANTICLOCKWISE INTEGRATIONaLINE INTEGRATION WITH RECTANGULAR PATH AROUND POLE
wSEMICIRCULAR PATH AROUND POLErNOT INCLUDING THE POLEaINTEGRAL AROUND A POINT OPERATOR
aQUATERNION INTEGRAL OPERATORaINTEGRAL WITH LEFTWARDS ARROW WITH HOOKoTIMES SIGNoINTERSECTIONoUNION
oOVERBARoUNDERBARaJOINaLARGE LEFT TRIANGLE OPERATORaZ NOTATION SCHEMA COMPOSITIONsPIPINGtROJECTION
aPLUS SIGN WITH SMALL CIRCLE ABOVEpCIRCUMFLEX ACCENT ABOVEpTILDE ABOVEpDOT BELOWpTILDE BELOW
pSUBSCRIPT TWOpBLACK TRIANGLEaMINUS SIGN WITH COMMA ABOVEqDOT BELOWqFALLING DOTSqRISING DOTS
aPLUS SIGN IN LEFT HALF CIRCLEnRIGHT HALF CIRCLEaVECTOR OR CROSS PRODUCT
aMULTIPLICATION SIGN WITH DOT ABOVEzUNDERBARaSEMIDIRECT PRODUCT WITH BOTTOM CLOSEDbMASH PRODUCT
aMULTIPLICATION SIGN IN LEFT HALF CIRCLExRIGHT HALF CIRCLE
aCIRCLED MULTIPLICATION SIGN WITH CIRCUMFLEX ACCENTaMULTIPLICATION SIGN IN DOUBLE CIRCLE
aCIRCLED DIVISION SIGNaPLUS SIGN IN TRIANGLEaMINUS SIGN IN TRIANGLEbULTIPLICATION SIGN IN TRIANGLE
aINTERIOR PRODUCTaRIGHTHAND INTERIOR PRODUCTaZ NOTATION RELATIONAL COMPOSITION
aAMALGAMATION OR COPRODUCTaINTERSECTION WITH DOTaUNION WITH MINUS SIGNlOVERBAR
aINTERSECTION WITH OVERBARsLOGICAL ANDaUNION WITH LOGICAL ORgABOVE INTERSECTION
aINTERSECTION ABOVE UNIONaUNION ABOVE BAR ABOVE INTERSECTIONaINTERSECTION ABOVE BAR ABOVE UNION
aUNION BESIDE AND JOINED WITH UNIONaINTERSECTION BESIDE AND JOINED WITH INTERSECTION
aCLOSED UNION WITH SERIFShINTERSECTION WITH SERIFSaDOUBLE SQUARE INTERSECTIONoUNION
aCLOSED UNION WITH SERIFS AND SMASH PRODUCTaLOGICAL AND WITH DOT ABOVEiOR WITH DOT ABOVE
aDOUBLE LOGICAL ANDpORaTWO INTERSECTING LOGICAL ANDzORaSLOPING LARGE ORoAND
aLOGICAL OR OVERLAPPING LOGICAL ANDiAND WITH MIDDLE STEMiOR WITH MIDDLE STEM
iAND WITH HORIZONTAL DASHiOR WITH HORIZONTAL DASHiAND WITH DOUBLE OVERBARrUNDERBARrDOUBLE UNDERBAR
aSMALL VEE WITH UNDERBARaLOGICAL OR WITH DOUBLE OVERBARxUNDERBARaZ NOTATION DOMAIN ANTIRESTRICTION
lRANGE ANTIRESTRICTIONaEQUALS SIGN WITH DOT BELOWaIDENTICAL WITH DOT ABOVE
aTRIPLE HORIZONTAL BAR WITH DOUBLE VERTICAL STROKEáTRIPLE VERTICAL STROKE
bILDE OPERATOR WITH DOT ABOVEuRISING DOTSaSIMILAR MINUS SIMILARaCONGRUENT WITH DOT ABOVE
aEQUALS WITH ASTERISKaALMOST EQUAL TO WITH CIRCUMFLEX ACCENTbPPROXIMATELY EQUAL OR EQUAL TO
aEQUALS SIGN ABOVE PLUS SIGNaPLUS SIGN ABOVE EQUALS SIGNaEQUALS SIGN ABOVE TILDE OPERATOR
aDOUBLE COLON EQUALaTWO CONSECUTIVE EQUALS SIGNSbHREE CONSECUTIVE EQUALS SIGNS
aEQUALS SIGN WITH TWO DOTS ABOVE AND TWO DOTS BELOWdIVALENT WITH FOUR DOTS ABOVE
aLESS-THAN WITH CIRCLE INSIDEaGREATER-THAN WITH CIRCLE INSIDEaLESS-THAN WITH QUESTION MARK ABOVE
aGREATER-THAN WITH QUESTION MARK ABOVEaLESS-THAN OR SLANTED EQUAL TO
aGREATER-THAN OR SLANTED EQUAL TOaLESS-THAN OR SLANTED EQUAL TO WITH DOT INSIDE
aGREATER-THAN OR SLANTED EQUAL TO WITH DOT INSIDEaLESS-THAN OR SLANTED EQUAL TO WITH DOT ABOVE
aGREATER-THAN OR SLANTED EQUAL TO WITH DOT ABOVEaLESS-THAN OR SLANTED EQUAL TO WITH DOT ABOVE RIGHT
aGREATER-THAN OR SLANTED EQUAL TO WITH DOT ABOVE LEFTaLESS-THAN OR APPROXIMATE
aGREATER-THAN OR APPROXIMATEaLESS-THAN AND SINGLE-LINE NOT EQUAL TO
aGREATER-THAN AND SINGLE-LINE NOT EQUAL TOaLESS-THAN AND NOT APPROXIMATE
aGREATER-THAN AND NOT APPROXIMATEaLESS-THAN ABOVE DOUBLE-LINE EQUAL ABOVE GREATER-THAN
aGREATER-THAN ABOVE DOUBLE-LINE EQUAL ABOVE LESS-THANaLESS-THAN ABOVE SIMILAR OR EQUAL
aGREATER-THAN ABOVE SIMILAR OR EQUALaLESS-THAN ABOVE SIMILAR ABOVE GREATER-THAN
aGREATER-THAN ABOVE SIMILAR ABOVE LESS-THANaLESS-THAN ABOVE GREATER-THAN ABOVE DOUBLE-LINE EQUAL
aGREATER-THAN ABOVE LESS-THAN ABOVE DOUBLE-LINE EQUAL
aLESS-THAN ABOVE SLANTED EQUAL ABOVE GREATER-THAN ABOVE SLANTED EQUAL
aGREATER-THAN ABOVE SLANTED EQUAL ABOVE LESS-THAN ABOVE SLANTED EQUALaSLANTED EQUAL TO OR LESS-THAN
uGREATER-THANuLESS-THAN WITH DOT INSIDEuGREATER-THAN WITH DOT INSIDE
aDOUBLE-LINE EQUAL TO OR LESS-THANyGREATER-THANmSLANTED EQUAL TO OR LESS-THANæGREATER-THAN
aSIMILAR OR LESS-THANlGREATER-THANiABOVE LESS-THAN ABOVE EQUALS SIGNoGREATER-THAN ABOVE EQUALS SIGN
aDOUBLE NESTED LESS-THANoGREATER-THANoLESS-THAN WITH UNDERBARaGREATER-THAN OVERLAPPING LESS-THAN
nBESIDE LESS-THANaLESS-THAN CLOSED BY CURVEaGREATER-THAN CLOSED BY CURVE
aLESS-THAN CLOSED BY CURVE ABOVE SLANTED EQUALaGREATER-THAN CLOSED BY CURVE ABOVE SLANTED EQUAL
aSMALLER THANaLARGER THANaSMALLER THAN OR EQUAL TOaLARGER THAN OR EQUAL TO
aEQUALS SIGN WITH BUMPY ABOVEaPRECEDES ABOVE SINGLE-LINE EQUALS SIGN
aSUCCEEDS ABOVE SINGLE-LINE EQUALS SIGNaPRECEDES ABOVE SINGLE-LINE NOT EQUAL TO
aSUCCEEDS ABOVE SINGLE-LINE NOT EQUAL TOaPRECEDES ABOVE EQUALS SIGNaSUCCEEDS ABOVE EQUALS SIGN
aPRECEDES ABOVE NOT EQUAL TOaSUCCEEDS ABOVE NOT EQUAL TOaPRECEDES ABOVE ALMOST EQUAL TO
aSUCCEEDS ABOVE ALMOST EQUAL TOaPRECEDES ABOVE NOT ALMOST EQUAL TO
aSUCCEEDS ABOVE NOT ALMOST EQUAL TOaDOUBLE PRECEDEShSUCCEEDSaSUBSET WITH DOTcPERSET WITH DOT
cBSET WITH PLUS SIGN BELOWcPERSET WITH PLUS SIGN BELOWcBSET WITH MULTIPLICATION SIGN BELOW
cPERSET WITH MULTIPLICATION SIGN BELOWcBSET OF OR EQUAL TO WITH DOT ABOVE
cPERSET OF OR EQUAL TO WITH DOT ABOVEcBSET OF ABOVE EQUALS SIGNcPERSET OF ABOVE EQUALS SIGN
cBSET OF ABOVE TILDE OPERATORcPERSET OF ABOVE TILDE OPERATORcBSET OF ABOVE ALMOST EQUAL TO
cPERSET OF ABOVE ALMOST EQUAL TOcBSET OF ABOVE NOT EQUAL TOcPERSET OF ABOVE NOT EQUAL TO
bQUARE LEFT OPEN BOX OPERATORhRIGHT OPEN BOX OPERATORaCLOSED SUBSETjPERSETjBSET OR EQUAL TO
jPERSET OR EQUAL TOaSUBSET ABOVE SUPERSETcPERSET ABOVE SUBSETcBSET ABOVE SUBSET
cPERSET ABOVE SUPERSETjBESIDE SUBSETqAND JOINED BY DASH WITH SUBSETaELEMENT OF OPENING DOWNWARDS
aPITCHFORK WITH TEE TOPaTRANSVERSAL INTERSECTIONaFORKINGaNONFORKINGaSHORT LEFT TACKgDOWN TACK
gUP TACKaPERPENDICULAR WITH SaVERTICAL BAR TRIPLE RIGHT TURNSTILEaDOUBLE VERTICAL BAR LEFT TURNSTILE
aVERTICAL BAR DOUBLE LEFT TURNSTILEaDOUBLE VERTICAL BAR DOUBLE LEFT TURNSTILE
aLONG DASH FROM LEFT MEMBER OF DOUBLE VERTICALaSHORT DOWN TACK WITH OVERBARgUP TACK WITH UNDERBAR
oABOVE SHORT DOWN TACKaDOUBLE DOWN TACKhUP TACKhSTROKE NOT SIGNaREVERSED DOUBLE STROKE NOT SIGN
aDOES NOT DIVIDE WITH REVERSED NEGATION SLASHaVERTICAL LINE WITH CIRCLE ABOVEàBELOW
aDOWN TACK WITH CIRCLE BELOWaPARALLEL WITH HORIZONTAL STROKEoTILDE OPERATOR
aTRIPLE VERTICAL BAR BINARY RELATIONuWITH HORIZONTAL STROKEhCOLON OPERATORhNESTED LESS-THAN
oGREATER-THANaDOUBLE-LINE SLANTED LESS-THAN OR EQUAL TOuGREATER-THAN OR EQUAL TO
aTRIPLE SOLIDUS BINARY RELATIONaLARGE TRIPLE VERTICAL BAR OPERATORaDOUBLE SOLIDUS OPERATOR
aWHITE VERTICAL BARaN-ARY WHITE VERTICAL BAR
"

end Scalpel.Text.CharName

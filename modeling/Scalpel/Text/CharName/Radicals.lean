import Scalpel.Text.CharName.Table

/-!
The names of further signs, of the radicals of ideographs, and of the characters that are written among
ideographs; the names of characters that control a device, short forms of names, and corrected
spellings.
-/

set_option autoImplicit false

namespace Scalpel.Text.CharName

def radicals : String := "
>2B00aNORTH EAST WHITE ARROWgWEST WHITE ARROWaSOUTH EAST WHITE ARROWgWEST WHITE ARROW
aLEFT RIGHT WHITE ARROWeWARDS BLACK ARROWaUPWARDS BLACK ARROWaDOWNWARDS BLACK ARROW
aNORTH EAST BLACK ARROWgWEST BLACK ARROWaSOUTH EAST BLACK ARROWgWEST BLACK ARROW
aLEFT RIGHT BLACK ARROWaUP DOWN BLACK ARROWaRIGHTWARDS ARROW WITH TIP DOWNWARDSàUPWARDS
aLEFTWARDS ARROW WITH TIP DOWNWARDSzUPWARDSaSQUARE WITH TOP HALF BLACKmBOTTOM HALF BLACK
mUPPER RIGHT DIAGONAL HALF BLACKmLOWER LEFT DIAGONAL HALF BLACKaDIAMOND WITH LEFT HALF BLACK
nRIGHT HALF BLACKnTOP HALF BLACKnBOTTOM HALF BLACKbOTTED SQUAREaBLACK LARGE SQUARE
aWHITE LARGE SQUAREaBLACK VERY SMALL SQUAREaWHITE VERY SMALL SQUAREaBLACK PENTAGONaWHITE PENTAGON
gHEXAGONaBLACK HEXAGONaHORIZONTAL BLACK HEXAGONaBLACK LARGE CIRCLEgMEDIUM DIAMOND
aWHITE MEDIUM DIAMONDaBLACK MEDIUM LOZENGEaWHITE MEDIUM LOZENGEaBLACK SMALL DIAMONDmLOZENGE
aWHITE SMALL LOZENGEaBLACK HORIZONTAL ELLIPSEaWHITE HORIZONTAL ELLIPSEaBLACK VERTICAL ELLIPSE
aWHITE VERTICAL ELLIPSEaLEFT ARROW WITH SMALL CIRCLEaTHREE LEFTWARDS ARROWS
aLEFT ARROW WITH CIRCLED PLUSbONG LEFTWARDS SQUIGGLE ARROW
bEFTWARDS TWO-HEADED ARROW WITH VERTICAL STROKEæDOUBLE VERTICAL STROKEáFROM BARvTRIPLE DASH ARROW
kARROW WITH DOTTED STEMvTAIL WITH VERTICAL STROKEåDOUBLE VERTICAL STROKEkTWO-HEADED ARROW WITH TAIL
ê WITH VERTICAL STROKEðDOUBLE VERTICAL STROKEkARROW THROUGH XaWAVE ARROW POINTING DIRECTLY LEFT
aEQUALS SIGN ABOVE LEFTWARDS ARROWaREVERSE TILDE OPERATOR ABOVE LEFTWARDS ARROW
aLEFTWARDS ARROW ABOVE REVERSE ALMOST EQUAL TOaRIGHTWARDS ARROW THROUGH GREATER-THANzSUPERSET
aLEFTWARDS QUADRUPLE ARROWaRIGHTWARDS QUADRUPLE ARROWbEVERSE TILDE OPERATOR ABOVE RIGHTWARDS ARROW
bIGHTWARDS ARROW ABOVE REVERSE ALMOST EQUAL TOaTILDE OPERATOR ABOVE LEFTWARDS ARROW
aLEFTWARDS ARROW ABOVE ALMOST EQUAL TOwREVERSE TILDE OPERATOR
aRIGHTWARDS ARROW ABOVE REVERSE TILDE OPERATORaDOWNWARDS TRIANGLE-HEADED ZIGZAG ARROW
aSHORT SLANTED NORTH ARROWgBACKSLANTED SOUTH ARROWaWHITE MEDIUM STARaBLACK SMALL STAR
aWHITE SMALL STARaBLACK RIGHT-POINTING PENTAGONaWHITE RIGHT-POINTING PENTAGONaHEAVY LARGE CIRCLE
gOVAL WITH OVAL INSIDEgCIRCLE WITH CIRCLE INSIDEmmD SALTIREaSLANTED NORTH ARROW WITH HOOKED HEAD
aBACKSLANTED SOUTH ARROW WITH HOOKED TAILaSLANTED NORTH ARROW WITH HORIZONTAL TAIL
aBACKSLANTED SOUTH ARROW WITH HORIZONTAL TAILbENT ARROW POINTING DOWNWARDS THEN NORTH EAST
aSHORT BENT ARROW POINTING DOWNWARDS THEN NORTH EASTaLEFTWARDS TRIANGLE-HEADED ARROW
aUPWARDS TRIANGLE-HEADED ARROWaRIGHTWARDS TRIANGLE-HEADED ARROWaDOWNWARDS TRIANGLE-HEADED ARROW
aLEFT RIGHT TRIANGLE-HEADED ARROWaUP DOWN TRIANGLE-HEADED ARROWaNORTH WEST TRIANGLE-HEADED ARROW
gEAST TRIANGLE-HEADED ARROWaSOUTH EAST TRIANGLE-HEADED ARROWgWEST TRIANGLE-HEADED ARROW
aLEFTWARDS TRIANGLE-HEADED DASHED ARROWaUPWARDS TRIANGLE-HEADED DASHED ARROW
aRIGHTWARDS TRIANGLE-HEADED DASHED ARROWaDOWNWARDS TRIANGLE-HEADED DASHED ARROW
aCLOCKWISE TRIANGLE-HEADED OPEN CIRCLE ARROWaANTICLOCKWISE TRIANGLE-HEADED OPEN CIRCLE ARROW
aLEFTWARDS TRIANGLE-HEADED ARROW TO BARaUPWARDS TRIANGLE-HEADED ARROW TO BAR
aRIGHTWARDS TRIANGLE-HEADED ARROW TO BARaDOWNWARDS TRIANGLE-HEADED ARROW TO BAR>2B76
aNORTH WEST TRIANGLE-HEADED ARROW TO BARgEAST TRIANGLE-HEADED ARROW TO BAR
aSOUTH EAST TRIANGLE-HEADED ARROW TO BARgWEST TRIANGLE-HEADED ARROW TO BAR
aLEFTWARDS TRIANGLE-HEADED ARROW WITH DOUBLE HORIZONTAL STROKE
aUPWARDS TRIANGLE-HEADED ARROW WITH DOUBLE HORIZONTAL STROKE
aRIGHTWARDS TRIANGLE-HEADED ARROW WITH DOUBLE HORIZONTAL STROKE
aDOWNWARDS TRIANGLE-HEADED ARROW WITH DOUBLE HORIZONTAL STROKEaHORIZONTAL TAB KEYaVERTICAL TAB KEY
aLEFTWARDS TRIANGLE-HEADED ARROW OVER RIGHTWARDS TRIANGLE-HEADED ARROW
aUPWARDS TRIANGLE-HEADED ARROW LEFTWARDS OF DOWNWARDS TRIANGLE-HEADED ARROW
aRIGHTWARDS TRIANGLE-HEADED ARROW OVER LEFTWARDS TRIANGLE-HEADED ARROW
aDOWNWARDS TRIANGLE-HEADED ARROW LEFTWARDS OF UPWARDS TRIANGLE-HEADED ARROW
aLEFTWARDS TRIANGLE-HEADED PAIRED ARROWSaUPWARDS TRIANGLE-HEADED PAIRED ARROWS
aRIGHTWARDS TRIANGLE-HEADED PAIRED ARROWSaDOWNWARDS TRIANGLE-HEADED PAIRED ARROWS
aLEFTWARDS BLACK CIRCLED WHITE ARROWaUPWARDS BLACK CIRCLED WHITE ARROW
aRIGHTWARDS BLACK CIRCLED WHITE ARROWaDOWNWARDS BLACK CIRCLED WHITE ARROW
aANTICLOCKWISE TRIANGLE-HEADED RIGHT U-SHAPED ARROWäBOTTOM U-SHAPED ARROWäLEFT U-SHAPED ARROW
äTOP U-SHAPED ARROWaRETURN LEFThRIGHTaNEWLINE LEFTiRIGHTaFOUR CORNER ARROWS CIRCLING ANTICLOCKWISE
aRIGHTWARDS BLACK ARROW>2B97aSYMBOL FOR TYPE A ELECTRONICS
aTHREE-D TOP-LIGHTED LEFTWARDS EQUILATERAL ARROWHEADiRIGHT-LIGHTED UPWARDS EQUILATERAL ARROWHEAD
iTOP-LIGHTED RIGHTWARDS EQUILATERAL ARROWHEADiLEFT-LIGHTED DOWNWARDS EQUILATERAL ARROWHEAD
aBLACK LEFTWARDS EQUILATERAL ARROWHEADgUPWARDS EQUILATERAL ARROWHEAD
gRIGHTWARDS EQUILATERAL ARROWHEADgDOWNWARDS EQUILATERAL ARROWHEAD
aDOWNWARDS TRIANGLE-HEADED ARROW WITH LONG TIP LEFTWARDSôRIGHTWARDS
aUPWARDS TRIANGLE-HEADED ARROW WITH LONG TIP LEFTWARDSòRIGHTWARDS
aLEFTWARDS TRIANGLE-HEADED ARROW WITH LONG TIP UPWARDS
aRIGHTWARDS TRIANGLE-HEADED ARROW WITH LONG TIP UPWARDS
aLEFTWARDS TRIANGLE-HEADED ARROW WITH LONG TIP DOWNWARDS
aRIGHTWARDS TRIANGLE-HEADED ARROW WITH LONG TIP DOWNWARDSaBLACK CURVED DOWNWARDS AND LEFTWARDS ARROW
áRIGHTWARDS ARROWnUPWARDS AND LEFTWARDS ARROWzRIGHTWARDS ARROWnLEFTWARDS AND UPWARDS ARROW
nRIGHTWARDS AND UPWARDS ARROWnLEFTWARDS AND DOWNWARDS ARROWnRIGHTWARDS AND DOWNWARDS ARROW
aRIBBON ARROW DOWN LEFTsRIGHTnUP LEFTqRIGHTnLEFT UPnRIGHT UPnLEFT DOWNnRIGHT DOWN
aUPWARDS WHITE ARROW FROM BAR WITH HORIZONTAL BARc ARROWHEAD IN A RECTANGLE BOX
aOVERLAPPING WHITE SQUARESsAND BLACK SQUARESmBLACK SQUARESaBALLOT BOX WITH LIGHT XaCIRCLED XiBOLD X
aBLACK SQUARE CENTREDgDIAMOND CENTREDaTURNED BLACK PENTAGONaHORIZONTAL BLACK OCTAGONaBLACK OCTAGON
gMEDIUM UP-POINTING TRIANGLE CENTREDnDOWN-POINTING TRIANGLE CENTREDnLEFT-POINTING TRIANGLE CENTRED
nRIGHT-POINTING TRIANGLE CENTREDaNEPTUNE FORM TWOaTOP HALF BLACK CIRCLEaBOTTOM HALF BLACK CIRCLE
aLIGHT FOUR POINTED BLACK CUSPaROTATED LIGHT FOUR POINTED BLACK CUSPaWHITE FOUR POINTED CUSP
aROTATED WHITE FOUR POINTED CUSPaSQUARE POSITION INDICATORaUNCERTAINTY SIGNaGROUP MARK
aPLUTO FORM TWOmHREElFOURmIVEaTRANSPLUTOaPROSERPINAaASTRAEAaHYGIEAaPHOLUSaNESSUSaWHITE MOON SELENA
aBLACK DIAMOND ON CROSSaTRUE LIGHT MOON ARTAaCUPIDOaHADESaZEUSaKRONOSaAPOLLONbDMETOSaVULCANUS
aPOSEIDONaLEFT HALF BLACK STARaRIGHT HALF BLACK STARaSTAR WITH LEFT HALF BLACKkRIGHT HALF BLACK
aLEFTWARDS TWO-HEADED ARROW WITH TRIANGLE ARROWHEADS
aUPWARDS TWO-HEADED ARROW WITH TRIANGLE ARROWHEADS
aRIGHTWARDS TWO-HEADED ARROW WITH TRIANGLE ARROWHEADS
aDOWNWARDS TWO-HEADED ARROW WITH TRIANGLE ARROWHEADSaERIS FORM ONEkTWOaSEDNA
aRUSSIAN ASTROLOGICAL SYMBOL VIGINTILEâNOVILEâQUINTILEâBINOVILEâSENTAGONâTREDECILE
aEQUALS SIGN WITH INFINITY BELOWaUNITED SYMBOLaSEPARATED SYMBOLaDOUBLED SYMBOLaPASSED SYMBOL
aREVERSED RIGHT ANGLEaHELLSCHREIBER PAUSE SYMBOLaGLAGOLITIC CAPITAL LETTER AZUàBUKYàVEDEàGLAGOLI
àDOBROàYESTUàZHIVETEàDZELOàZEMLJAàIZHEáNITIAL IZHEáàDJERVIàKAKOàLJUDIJEàMYSLITEàNASHIàONUàPOKOJI
àRITSIàSLOVOàTVRIDOàUKUàFRITUàHERUàOTUàPEàSHTAàTSIàCHRIVIàSHAàYERUãIáATIàSPIDERY HAàYUàSMALL YUS
é WITH TAILàYOàIOTATED SMALL YUSàBIG YUSàIOTATED BIG YUSàFITAàIZHITSAàSHTAPICàTROKUTASTI A
àLATINATE MYSLITEàCAUDATE CHRIVIlSMALL LETTER AZUyBUKYyVEDEyGLAGOLIyDOBROyYESTUyZHIVETEyDZELOyZEMLJA
yIZHEzNITIAL IZHEzyDJERVIyKAKOyLJUDIJEyMYSLITEyNASHIyONUyPOKOJIyRITSIySLOVOyTVRIDOyUKUyFRITUyHERU
yOTUyPEySHTAyTSIyCHRIVIySHAyYERUáIzATIySPIDERY HAyYUySMALL YUSç WITH TAILyYOyIOTATED SMALL YUS
yBIG YUSyIOTATED BIG YUSyFITAyIZHITSAySHTAPICyTROKUTASTI AyLATINATE MYSLITEyCAUDATE CHRIVI
aLATIN CAPITAL LETTER L WITH DOUBLE BARgSMALL LETTER L WITH DOUBLE BAR
gCAPITAL LETTER L WITH MIDDLE TILDEvP WITH STROKEvR WITH TAILgSMALL LETTER A WITH STROKE
tT WITH DIAGONAL STROKEgCAPITAL LETTER H WITH DESCENDERgSMALL LETTER H WITH DESCENDER
gCAPITAL LETTER K WITH DESCENDERgSMALL LETTER K WITH DESCENDERgCAPITAL LETTER Z WITH DESCENDER
gSMALL LETTER Z WITH DESCENDERgCAPITAL LETTER ALPHAvM WITH HOOKvTURNED AãLPHA
gSMALL LETTER V WITH RIGHT HOOKgCAPITAL LETTER W WITH HOOKgSMALL LETTER W WITH HOOKtV WITH CURL
gCAPITAL LETTER HALF HgSMALL LETTER HALF HtTAILLESS PHItE WITH NOTCHtTURNED R WITH TAIL
tO WITH LOW RING INSIDEgLETTER SMALL CAPITAL TURNED EgSUBSCRIPT SMALL LETTER J
aMODIFIER LETTER CAPITAL VaLATIN CAPITAL LETTER S WITH SWASH TAILvZ WITH SWASH TAIL
aCOPTIC CAPITAL LETTER ALFAhSMALL LETTER ALFAhCAPITAL LETTER VIDAhSMALL LETTER VIDA
hCAPITAL LETTER GAMMAhSMALL LETTER GAMMAhCAPITAL LETTER DALDAhSMALL LETTER DALDAhCAPITAL LETTER EIE
hSMALL LETTER EIEhCAPITAL LETTER SOUhSMALL LETTER SOUhCAPITAL LETTER ZATAhSMALL LETTER ZATA
hCAPITAL LETTER HATEhSMALL LETTER HATEhCAPITAL LETTER THETHEhSMALL LETTER THETHE
hCAPITAL LETTER IAUDAhSMALL LETTER IAUDAhCAPITAL LETTER KAPAhSMALL LETTER KAPAhCAPITAL LETTER LAULA
hSMALL LETTER LAULAhCAPITAL LETTER MIhSMALL LETTER MIhCAPITAL LETTER NIhSMALL LETTER NI
hCAPITAL LETTER KSIhSMALL LETTER KSIhCAPITAL LETTER OhSMALL LETTER OhCAPITAL LETTER PI
hSMALL LETTER PIhCAPITAL LETTER ROhSMALL LETTER ROhCAPITAL LETTER SIMAhSMALL LETTER SIMA
hCAPITAL LETTER TAUhSMALL LETTER TAUhCAPITAL LETTER UAhSMALL LETTER UAhCAPITAL LETTER FI
hSMALL LETTER FIhCAPITAL LETTER KHIhSMALL LETTER KHIhCAPITAL LETTER PSIhSMALL LETTER PSI
hCAPITAL LETTER OOUhSMALL LETTER OOUhCAPITAL LETTER DIALECT-P ALEFhSMALL LETTER DIALECT-P ALEF
hCAPITAL LETTER OLD COPTIC AINhSMALL LETTER OLD COPTIC AINhCAPITAL LETTER CRYPTOGRAMMIC EIE
hSMALL LETTER CRYPTOGRAMMIC EIEhCAPITAL LETTER DIALECT-P KAPAhSMALL LETTER DIALECT-P KAPA
hCAPITAL LETTER DIALECT-P NIhSMALL LETTER DIALECT-P NIhCAPITAL LETTER CRYPTOGRAMMIC NI
hSMALL LETTER CRYPTOGRAMMIC NIhCAPITAL LETTER OLD COPTIC OOUhSMALL LETTER OLD COPTIC OOU
hCAPITAL LETTER SAMPIhSMALL LETTER SAMPIhCAPITAL LETTER CROSSED SHEIhSMALL LETTER CROSSED SHEI
hCAPITAL LETTER OLD COPTIC SHEIhSMALL LETTER OLD COPTIC SHEIhCAPITAL LETTER OLD COPTIC ESH
hSMALL LETTER OLD COPTIC ESHhCAPITAL LETTER AKHMIMIC KHEIhSMALL LETTER AKHMIMIC KHEI
hCAPITAL LETTER DIALECT-P HORIhSMALL LETTER DIALECT-P HORIhCAPITAL LETTER OLD COPTIC HORI
hSMALL LETTER OLD COPTIC HORIhCAPITAL LETTER OLD COPTIC HAhSMALL LETTER OLD COPTIC HA
hCAPITAL LETTER L-SHAPED HAhSMALL LETTER L-SHAPED HAhCAPITAL LETTER OLD COPTIC HEI
hSMALL LETTER OLD COPTIC HEIhCAPITAL LETTER OLD COPTIC HAThSMALL LETTER OLD COPTIC HAT
hCAPITAL LETTER OLD COPTIC GANGIAhSMALL LETTER OLD COPTIC GANGIAhCAPITAL LETTER OLD COPTIC DJA
hSMALL LETTER OLD COPTIC DJAhCAPITAL LETTER OLD COPTIC SHIMAhSMALL LETTER OLD COPTIC SHIMA
hCAPITAL LETTER OLD NUBIAN SHIMAhSMALL LETTER OLD NUBIAN SHIMAhCAPITAL LETTER OLD NUBIAN NGI
hSMALL LETTER OLD NUBIAN NGIhCAPITAL LETTER OLD NUBIAN NYIhSMALL LETTER OLD NUBIAN NYI
hCAPITAL LETTER OLD NUBIAN WAUhSMALL LETTER OLD NUBIAN WAUiYMBOL KAIoMI ROoPI ROoSTAUROSoTAU RO
oKHI ROoSHIMA SIMAhCAPITAL LETTER CRYPTOGRAMMIC SHEIhSMALL LETTER CRYPTOGRAMMIC SHEI
hCAPITAL LETTER CRYPTOGRAMMIC GANGIAhSMALL LETTER CRYPTOGRAMMIC GANGIAhCOMBINING NI ABOVE
rSPIRITUS ASPERàLENISiAPITAL LETTER BOHAIRIC KHEIhSMALL LETTER BOHAIRIC KHEI>2CF9
hOLD NUBIAN FULL STOPsDIRECT QUESTION MARKsINDIRECT QUESTION MARKsVERSE DIVIDERhFRACTION ONE HALF
iULL STOPhMORPHOLOGICAL DIVIDERaGEORGIAN SMALL LETTER ANwBANwGANwDONwENwVINwZENwTANwINwKANwLASwMAN
wNARwONwPARwZHARwRAEwSANwTARwUNwPHARwKHARwGHANwQARwSHINwCHINxANwJILwCILxHARwXANwJHANwHAExExIEwWEwHAR
xOE>2D27wYN>2D2DwAEN>2D30aTIFINAGH LETTER YAsBtHsGtHHqBERBER ACADEMY YAJqYAJsDtHtDuHrEYrAFsK
qTUAREG YAKqYAKHHsHqBERBER ACADEMY YAHqTUAREG YAHqYAHHsAsKHqTUAREG YAKHqYAQqTUAREG YAQqYIrAZH
qAHAGGAR YAZHqTUAREG YAZHqYALsMsNqTUAREG YAGNzNGqYAPrUrARtRsGHqTUAREG YAGHqAYER YAGHqYAStStHsTtHsCH
sTTsVsWsYsZqTAWELLEMET YAZqYAZZrErO>2D6FjMODIFIER LETTER LABIALIZATION MARKjSEPARATOR MARK>2D7F
jCONSONANT JOINERaETHIOPIC SYLLABLE LOAsMOAsROAsSOAtHOAsBOAsTOAsCOAsNOAtYOAsGLOTTAL OAsZOAsDOAtDOA
sJOAsTHOAsCHOAsPHOAtOAsGGWAvIvEEw>2DA0sSSAuUuIuAAuEEvuO>2DA8sCCAuUuIuAAuEEvuO>2DB0sZZAuUuIuAAuEEvuO
>2DB8sCCHAvUvIvAAvEEwvO>2DC0sQYAuUuIuAAuEEvuO>2DC8sKYAuUuIuAAuEEvuO>2DD0sXYAuUuIuAAuEEvuO>2DD8sGYAuU
uIuAAuEEvuO>2DE0aCOMBINING CYRILLIC LETTER BEàVEàGHEàDEàZHEáEàKAàELáMáNàOàPEàERáSàTEàHAàTSEàCHEàSHA
âCHAàFITAàES-TEàAàIEàDJERVàMONOGRAPH UKàYATáUàIOTIFIED AàLITTLE YUSàBIG YUSàIOTIFIED BIG YUS
aRIGHT ANGLE SUBSTITUTION MARKERmDOTTED SUBSTITUTION MARKERaLEFT SUBSTITUTION BRACKET
aRIGHT SUBSTITUTION BRACKETaLEFT DOTTED SUBSTITUTION BRACKETaRIGHT DOTTED SUBSTITUTION BRACKET
bAISED INTERPOLATION MARKERhDOTTED INTERPOLATION MARKERaDOTTED TRANSPOSITION MARKER
aLEFT TRANSPOSITION BRACKETaRIGHT TRANSPOSITION BRACKETbAISED SQUAREaLEFT RAISED OMISSION BRACKET
aRIGHT RAISED OMISSION BRACKETaEDITORIAL CORONISaPARAGRAPHOSaFORKED PARAGRAPHOS
aREVERSED FORKED PARAGRAPHOSaHYPODIASTOLEaDOTTED OBELOScWNWARDS ANCORAaUPWARDS ANCORA
aDOTTED RIGHT-POINTING ANGLEcUBLE OBLIQUE HYPHENaINVERTED INTERROBANGaPALM BRANCH
aHYPHEN WITH DIAERESISaTILDE WITH RING ABOVEaLEFT LOW PARAPHRASE BRACKET
aRIGHT LOW PARAPHRASE BRACKETaTILDE WITH DOT ABOVEpBELOWaLEFT VERTICAL BAR WITH QUILL
aRIGHT VERTICAL BAR WITH QUILLaTOP LEFT HALF BRACKETeRIGHT HALF BRACKETaBOTTOM LEFT HALF BRACKET
hRIGHT HALF BRACKETaLEFT SIDEWAYS U BRACKETaRIGHT SIDEWAYS U BRACKETaLEFT DOUBLE PARENTHESIS
aRIGHT DOUBLE PARENTHESISaTWO DOTS OVER ONE DOT PUNCTUATIONaONE DOT OVER TWO DOTS PUNCTUATION
aSQUARED FOUR DOT PUNCTUATIONaFIVE DOT MARKaREVERSED QUESTION MARKaVERTICAL TILDEaRING POINT
aWORD SEPARATOR MIDDLE DOTaTURNED COMMAaRAISED DOThCOMMAaTURNED SEMICOLONaDAGGER WITH LEFT GUARD
mRIGHT GUARDaTURNED DAGGERbOP HALF SECTION SIGNbWO-EM DASHbHREE-EM DASHaSTENOGRAPHIC FULL STOP
aVERTICAL SIX DOTSaWIGGLY VERTICAL LINEaCAPITULUMaDOUBLE HYPHENaREVERSED COMMA
aDOUBLE LOW-REVERSED-9 QUOTATION MARKbASH WITH LEFT UPTURNbOUBLE SUSPENSION MARKaINVERTED LOW KAVYKA
t WITH KAVYKA ABOVEaLOW KAVYKAk WITH DOTaDOUBLE STACKED COMMAcTTED SOLIDUSaTRIPLE DAGGER
aMEDIEVAL COMMAaPARAGRAPHUS MARKbUNCTUS ELEVATUS MARKaCORNISH VERSE DIVIDER
bROSS PATTY WITH RIGHT CROSSBARrLEFT CROSSBARaTIRONIAN SIGN CAPITAL ETaMEDIEVAL EXCLAMATION MARK
jQUESTION MARKaLEFT SQUARE BRACKET WITH STROKEaRIGHT SQUARE BRACKET WITH STROKE
aLEFT SQUARE BRACKET WITH DOUBLE STROKEaRIGHT SQUARE BRACKET WITH DOUBLE STROKE
aTOP HALF LEFT PARENTHESISjRIGHT PARENTHESISaBOTTOM HALF LEFT PARENTHESISmRIGHT PARENTHESIS
aOBLIQUE HYPHEN>2E80aCJK RADICAL REPEATmCLIFFmSECOND ONEtTWOuHREEmPERSONmBOXmTABLEmKNIFE ONEsTWO
mDIVINATIONmSEALnMALL ONEsTWOmLAME ONErTWOsHREErFOURmSNAKEmTHREADmSNOUT ONEsTWOmHEART ONEsTWOnAND
mRAP>2E9BmCHOKEmSUNmMOONmDEATHmMOTHERmCIVILIANmWATER ONEsTWOmFIREmPAW ONEqTWO
mSIMPLIFIED HALF TREE TRUNKmCOWmDOGmJADEmBOLT OF CLOTHmEYEmSPIRIT ONEtTWOmBAMBOOmSILK
mC-SIMPLIFIED SILKmNET ONEqTWOrHREEqFOURmMESHmSHEEPmRAMmEWEmOLDmBRUSH ONEsTWOmMEATnORTARmGRASS ONE
sTWOtHREEmTIGERmCLOTHESmWEST ONErTWOmC-SIMPLIFIED SEEmSIMPLIFIED HORNmHORNmC-SIMPLIFIED SPEECHàHELL
mFOOTmC-SIMPLIFIED CARTmSIMPLIFIED WALKmWALK ONErTWOmCITYn-SIMPLIFIED GOLDmLONG ONErTWO
mC-SIMPLIFIED LONGzGATEmMOUND ONEsTWOmRAINmBLUEmC-SIMPLIFIED TANNED LEATHERzLEAFzWINDzFLYmEAT ONE
qTWOrHREEmC-SIMPLIFIED EATmHEADmC-SIMPLIFIED HORSEmBONEmGHOSTmC-SIMPLIFIED FISHzBIRDzSALT
mSIMPLIFIED WHEATxYELLOWmC-SIMPLIFIED FROGmJ-SIMPLIFIED EVENmC-SIMPLIFIED EVENmJ-SIMPLIFIED TOOTH
mC-SIMPLIFIED TOOTHmJ-SIMPLIFIED DRAGONmC-SIMPLIFIED DRAGONmTURTLEmJ-SIMPLIFIED TURTLE
mC-SIMPLIFIED TURTLE>2F00aKANGXI RADICAL ONEpLINEpDOTpSLASHqECONDpHOOKpTWOpLIDpMANpLEGSpENTERqIGHT
pDOWN BOXpCOVERpICEpTABLEpOPEN BOXpKNIFEpPOWERpWRAPpSPOONpRIGHT OPEN BOXpHIDING ENCLOSUREpTEN
pDIVINATIONpSEALpCLIFFpPRIVATEpAGAINpMOUTHpENCLOSUREqARTHpSCHOLARpGOr SLOWLYpEVENINGpBIGpWOMANpCHILD
pROOFpINCHpSMALLpLAMEpCORPSEpSPROUTpMOUNTAINpRIVERpWORKpONESELFpTURBANpDRYpSHORT THREADpDOTTED CLIFF
pLONG STRIDEpTWO HANDSpSHOOTpBOWpSNOUTpBRISTLEpSTEPpHEARTqALBERDpDOORpHANDpBRANCHpRAPpSCRIPTpDIPPER
pAXEpSQUAREpNOTpSUNqAYpMOONpTREEpLACKpSTOPpDEATHpWEAPONpDO NOTpCOMPAREpFURpCLANpSTEAMpWATERpFIRE
pCLAWpFATHERpDOUBLE XpHALF TREE TRUNKpSLICEpFANGpCOWpDOGpPROFOUNDpJADEpMELONpTILEpSWEETpLIFEpUSE
pFIELDpBOLT OF CLOTHpSICKNESSpDOTTED TENTpWHITEpSKINpDISHpEYEpSPEARpARROWpSTONEqPIRITpTRACKpGRAIN
pCAVEpSTANDpBAMBOOpRICEpSILKpJARpNETpSHEEPpFEATHERpOLDpANDpPLOWpEARpBRUSHpMEATqINISTERpSELFpARRIVE
pMORTARpTONGUEpOPPOSEpBOATpSTOPPINGpCOLORpGRASSpTIGERpINSECTpBLOODpWALK ENCLOSUREpCLOTHESpWESTpSEE
pHORNpSPEECHpVALLEYpBEANpPIGpBADGERpSHELLpREDqUNpFOOTpBODYpCARTpBITTERpMORNINGpWALKpCITYpWINE
pDISTINGUISHpVILLAGEpGOLDpLONGpGATEpMOUNDpSLAVEqHORT TAILED BIRDpRAINpBLUEpWRONGpFACEpLEATHER
pTANNED LEATHERpLEEKpSOUNDpLEAFpWINDpFLYpEATpHEADpFRAGRANTpHORSEpBONEpTALLpHAIRpFIGHT
pSACRIFICIAL WINEpCAULDRONpGHOSTpFISHpBIRDpSALTpDEERpWHEATpHEMPpYELLOWpMILLETpBLACKpEMBROIDERYpFROG
pTRIPODpDRUMpRATpNOSEpEVENpTOOTHpDRAGONpTURTLEpFLUTE>2FF0
aIDEOGRAPHIC DESCRIPTION CHARACTER LEFT TO RIGHTèABOVE TO BELOWèLEFT TO MIDDLE AND RIGHT
èABOVE TO MIDDLE AND BELOWèFULL SURROUNDèSURROUND FROM ABOVEöBELOWöLEFTöUPPER LEFTüRIGHTöLOWER LEFT
èOVERLAID>3000mSPACEmCOMMAmFULL STOPaDITTO MARKaJAPANESE INDUSTRIAL STANDARD SYMBOL
aIDEOGRAPHIC ITERATION MARKmCLOSING MARKmNUMBER ZEROaLEFT ANGLE BRACKETaRIGHT ANGLE BRACKET
aLEFT DOUBLE ANGLE BRACKETaRIGHT DOUBLE ANGLE BRACKETaLEFT CORNER BRACKETaRIGHT CORNER BRACKET
aLEFT WHITE CORNER BRACKETaRIGHT WHITE CORNER BRACKETaLEFT BLACK LENTICULAR BRACKET
aRIGHT BLACK LENTICULAR BRACKETaPOSTAL MARKaGETA MARKaLEFT TORTOISE SHELL BRACKET
aRIGHT TORTOISE SHELL BRACKETaLEFT WHITE LENTICULAR BRACKETaRIGHT WHITE LENTICULAR BRACKET
aLEFT WHITE TORTOISE SHELL BRACKETaRIGHT WHITE TORTOISE SHELL BRACKETaLEFT WHITE SQUARE BRACKET
aRIGHT WHITE SQUARE BRACKETaWAVE DASHaREVERSED DOUBLE PRIME QUOTATION MARK
aDOUBLE PRIME QUOTATION MARKaLOW DOUBLE PRIME QUOTATION MARKaPOSTAL MARK FACEaHANGZHOU NUMERAL ONE
rTWOsHREErFOURsIVErSIXsEVENrEIGHTrNINEaIDEOGRAPHIC LEVEL TONE MARKmRISING TONE MARK
mDEPARTING TONE MARKmENTERING TONE MARKaHANGUL SINGLE DOT TONE MARKhDOUBLE DOT TONE MARKaWAVY DASH
aVERTICAL KANA REPEAT MARKvWITH VOICED SOUND MARKvMARK UPPER HALFvWITH VOICED SOUND MARK UPPER HALF
vMARK LOWER HALFaCIRCLED POSTAL MARKaIDEOGRAPHIC TELEGRAPH LINE FEED SEPARATOR SYMBOL
aHANGZHOU NUMERAL TENsWENTYsHIRTYaVERTICAL IDEOGRAPHIC ITERATION MARKaMASU MARK
aPART ALTERNATION MARKaIDEOGRAPHIC VARIATION INDICATORmHALF FILL SPACE>3041aHIRAGANA LETTER SMALL A
qAqSMALL IqIqSMALL UqUqSMALL EqEqSMALL OqOqKAqGAqKIqGIqKUqGUqKEqGEqKOqGOqSAqZAqSIqZIqSUqZUqSEqZEqSO
qZOqTAqDAqTIqDIqSMALL TUqTUqDUqTEqDEqTOqDOqNArIrUrErOqHAqBAqPAqHIqBIqPIqHUqBUqPUqHEqBEqPEqHOqBOqPO
qMArIrUrErOqSMALL YAqYAqSMALL YUqYUqSMALL YOqYOqRArIrUrErOqSMALL WAqWArIrErOqNqVUqSMALL KAxE>3099
aCOMBINING KATAKANA-HIRAGANA VOICED SOUND MARKâSEMI-VOICED SOUND MARK
aKATAKANA-HIRAGANA VOICED SOUND MARKsSEMI-VOICED SOUND MARKaHIRAGANA ITERATION MARK
jVOICED ITERATION MARKjDIGRAPH YORIaKATAKANA-HIRAGANA DOUBLE HYPHENi LETTER SMALL AqAqSMALL IqI
qSMALL UqUqSMALL EqEqSMALL OqOqKAqGAqKIqGIqKUqGUqKEqGEqKOqGOqSAqZAqSIqZIqSUqZUqSEqZEqSOqZOqTAqDAqTI
qDIqSMALL TUqTUqDUqTEqDEqTOqDOqNArIrUrErOqHAqBAqPAqHIqBIqPIqHUqBUqPUqHEqBEqPEqHOqBOqPOqMArIrUrErO
qSMALL YAqYAqSMALL YUqYUqSMALL YOqYOqRArIrUrErOqSMALL WAqWArIrErOqNqVUqSMALL KAxEqVArIrErO
jMIDDLE DOTi-HIRAGANA PROLONGED SOUND MARKi ITERATION MARKjVOICED ITERATION MARKjDIGRAPH KOTO>3105
aBOPOMOFO LETTER BqPqMqFqDqTqNqLqGqKqHqJqQqXqZHqCHqSHqRqZqCqSqAqOqErHqAIqEIqAUqOUqANqENqANGqENGrRqI
qUqIUqVqNGqGNqIHqO WITH DOT ABOVEqNN>3131aHANGUL LETTER KIYEOKoSSANGKIYEOKoKIYEOK-SIOSoNIEUNt-CIEUC
uHIEUHoTIKEUToSSANGTIKEUToRIEULt-KIYEOKuMIEUMuPIEUPuSIOSuTHIEUTHuPHIEUPHuHIEUHoMIEUMoPIEUP
oSSANGPIEUPoPIEUP-SIOSoSIOSpSANGSIOSoIEUNGoCIEUCoSSANGCIEUCoCHIEUCHoKHIEUKHoTHIEUTHoPHIEUPHoHIEUHoA
pEoYAqEoEOpoYEOqoOoWAqEoOEoYOoUoWEOqpIoYUoEUoYIoIhFILLERhLETTER SSANGNIEUNoNIEUN-TIKEUTuSIOSuPANSIOS
oRIEUL-KIYEOK-SIOSuTIKEUTuPIEUP-SIOSvANSIOSuYEORINHIEUHoMIEUM-PIEUPuSIOSuPANSIOSoKAPYEOUNMIEUM
oPIEUP-KIYEOKuTIKEUTuSIOS-KIYEOKzTIKEUTuCIEUCuTHIEUTHoKAPYEOUNPIEUPwSSANGPIEUPoSIOS-KIYEOKtNIEUN
tTIKEUTtPIEUPtCIEUCoPANSIOSoSSANGIEUNGoYESIEUNGw-SIOSxPANSIOSoKAPYEOUNPHIEUPHoSSANGHIEUHoYEORINHIEUH
pO-YAtErIpU-YEOtrIoARAEAtE>3190aIDEOGRAPHIC ANNOTATION LINKING MARKxREVERSE MARKxONE MARKxTWO MARK
yHREE MARKxFOUR MARKxTOP MARKxMIDDLE MARKxBOTTOM MARKxFIRST MARKxSECOND MARKxTHIRD MARKxFOURTH MARK
xHEAVEN MARKxEARTH MARKxMAN MARKaBOPOMOFO LETTER BUqZIqJIqGUqEErNNqOOrNNqIRqANNqINNqUNNqIMqNGGqAINN
rUNNrMqOMrNGqINNNjFINAL LETTER PwTwKwHjLETTER GHqLHqZYjFINAL LETTER GjLETTER GWqKWqOEqAH
aCJK STROKE TlWGlXGlBXGlSWlHZZnGmPmZWGlSZWGlHZTnZPmPWGmZWnZZlNlHlSlPlSPlDlHZmGlSZmWZmTmGlPDmZlTNlSZZ
mWGlHXWGmZZZGlPGlQ>31F0aKATAKANA LETTER SMALL KUwSIxUwTOwNUwHAxIxUxExOwMUwRAxIxUxExO
aPARENTHESIZED HANGUL KIYEOKvNIEUNvTIKEUTvRIEULvMIEUMvPIEUPvSIOSvIEUNGvCIEUCwHIEUCHvKHIEUKHvTHIEUTH
vPHIEUPHvHIEUHvKIYEOK AvNIEUN AvTIKEUT AvRIEUL AvMIEUM AvPIEUP AvSIOS AvIEUNG AvCIEUC AwHIEUCH A
vKHIEUKH AvTHIEUTH AvPHIEUPH AvHIEUH AvCIEUC UoKOREAN CHARACTER OJEONæ HU>3220oIDEOGRAPH ONEyTWO
zHREEyFOURzIVEySIXzEVENyEIGHTyNINEyTENyMOONyFIREyWATERzOODyMETALyEARTHySUNzTOCKyHAVEySOCIETYyNAME
ySPECIALyFINANCIALyCONGRATULATIONyLABORyREPRESENTyCALLySTUDYzUPERVISEyENTERPRISEyRESOURCEyALLIANCE
yFESTIVALyRESTySELFyREACHaCIRCLED IDEOGRAPH QUESTIONsKINDERGARTENsSCHOOLsKOTO
iNUMBER TEN ON BLACK SQUAREqWENTY ON BLACK SQUAREqHIRTY ON BLACK SQUAREpFORTY ON BLACK SQUARE
qIFTY ON BLACK SQUAREpSIXTY ON BLACK SQUAREqEVENTY ON BLACK SQUAREpEIGHTY ON BLACK SQUARE
aPARTNERSHIP SIGNaCIRCLED NUMBER TWENTY ONEwTWOxHREEwFOURxIVEwSIXxEVENwEIGHTwNINEqHIRTYv ONEwTWO
xHREEwFOURxIVEiHANGUL KIYEOKpNIEUNpTIKEUTpRIEULpMIEUMpPIEUPpSIOSpIEUNGpCIEUCqHIEUCHpKHIEUKHpTHIEUTH
pPHIEUPHpHIEUHpKIYEOK ApNIEUN ApTIKEUT ApRIEUL ApMIEUM ApPIEUP ApSIOS ApIEUNG ApCIEUC AqHIEUCH A
pKHIEUKH ApTHIEUTH ApPHIEUPH ApHIEUH AiKOREAN CHARACTER CHAMKOzJUEUIiHANGUL IEUNG U
aKOREAN STANDARD SYMBOLaCIRCLED IDEOGRAPH ONEsTWOtHREEsFOURtIVEsSIXtEVENsEIGHTsNINEsTENsMOONsFIRE
sWATERtOODsMETALsEARTHsSUNtTOCKsHAVEsSOCIETYsNAMEsSPECIALsFINANCIALsCONGRATULATIONsLABORsSECRETsMALE
sFEMALEsSUITABLEsEXCELLENTsPRINTsATTENTIONsITEMsRESTsCOPYuRRECTsHIGHsCENTREsLOWtEFTsRIGHTsMEDICINE
sRELIGIONsSTUDYtUPERVISEsENTERPRISEsRESOURCEsALLIANCEsNIGHTiNUMBER THIRTY SIXxEVENwEIGHTwNINEpFORTY
u ONEvTWOwHREEvFOURwIVEvSIXwEVENvEIGHTvNINEqIFTYaIDEOGRAPHIC TELEGRAPH SYMBOL FOR JANUARYçFEBRUARY
çMARCHçAPRILçMAYçJUNEéLYçAUGUSTçSEPTEMBERçOCTOBERçNOVEMBERçDECEMBERaSQUARE HGhERGiV
aLIMITED LIABILITY SIGNaCIRCLED KATAKANA ArIrUrErOrKAsIsUsEsOrSAsIsUsEsOrTAsIsUsEsOrNAsIsUsEsOrHAsI
sUsEsOrMAsIsUsEsOrYAsUsOrRAsIsUsEsOrWAsIsEsOaSQUARE ERA NAME REIWAhAPAATOiRUHUAiNPEAiARUhININGUjTI
hUONhESUKUUDOiEKAAhONSUiOMUhKAIRIjRATTOkORIIhGARONjNMAiIGAjNIIhKYURIIhGIRUDAAhKIROlGURAMUlMEETORU
lWATTOhGURAMUnTONhKURUZEIROkOONEiEESUiORUNAjOPOhSAIKURUjNTIIMUiIRINGUiENTIlOhDAASUiESIiORUhTONhNANO
iOTTOhHAITUhPAASENTOkTUhBAARERUhPIASUTORUjKURUkOhBIRUhHUARADDOjIITOhBUSSYERUhHURANiEKUTAARUhPESO
jNIHIhHERUTUhPENSUjEZIhBEETAhPOINTOhBORUTOhHONhPONDOhHOORUkNhMAIKUROkRUjHHAjRUKUjNSYONiIKURONjRI
lBAARUiEGAlTONjETORUhYAADOkRUiUANhRITTORUjRAiUPIIjUBURUiEMUjNTOGENhWATTO
aIDEOGRAPHIC TELEGRAPH SYMBOL FOR HOUR ZEROìONEìTWOíHREEìFOURíIVEìSIXíEVENìEIGHTìNINEìTENìELEVEN
ìTWELVEíHIRTEENìFOURTEENíIFTEENìSIXTEENíEVENTEENìEIGHTEENìNINETEENìTWENTYò-ONEóTWOôHREEóFOUR
aSQUARE HPAhDAhAUhBARhOVhPChDMj SQUAREDkCUBEDhIUhERA NAME HEISEIqSYOUWAqTAISYOUqMEIZIhCORPORATION
hPA AMPShNAhMU AiAhKAiBhMBhGBhCALhKCALhPFhNFhMU FkGiGhKGhHZhKHZhMHZhGHZhTHZhMU LiLhDLhKLhFMhNMhMU M
iMhCMhKMhMM SQUAREDhCM SQUAREDhM SQUAREDhKM SQUAREDhMM CUBEDhCM CUBEDhM CUBEDhKM CUBEDhM OVER S
p SQUAREDhPAhKPAhMPAhGPAhRADk OVER Sr SQUAREDhPShNShMU SiShPVhNVhMU ViVhKVhMV MEGAhPWhNWhMU WiWhKW
hMW MEGAhK OHMhM OHMhAMhBQhCCiDi OVER KGiOhDBhGYhHAiPhINhKKiM CAPITALiThLMiNiOGiXhMB SMALLiILiOLhPH
iMiPMiRhSRiVhWBhV OVER MhA OVER MaIDEOGRAPHIC TELEGRAPH SYMBOL FOR DAY ONEëTWOìHREEëFOURìIVEëSIX
ìEVENëEIGHTëNINEëTENëELEVENëTWELVEìHIRTEENëFOURTEENìIFTEENëSIXTEENìEVENTEENëEIGHTEENëNINETEENëTWENTY
ñ-ONEòTWOóHREEòFOURóIVEòSIXóEVENòEIGHTòNINEìHIRTYñ-ONEaSQUARE GAL>4DC0
aHEXAGRAM FOR THE CREATIVE HEAVENrRECEPTIVE EARTHnDIFFICULTY AT THE BEGINNINGnYOUTHFUL FOLLYnWAITING
nCONFLICTnTHE ARMYnHOLDING TOGETHERnSMALL TAMINGnTREADINGnPEACEnSTANDSTILLnFELLOWSHIP
nGREAT POSSESSIONnMODESTYnENTHUSIASMnFOLLOWINGnWORK ON THE DECAYEDnAPPROACHnCONTEMPLATION
nBITING THROUGHnGRACEnSPLITTING APARTnRETURNnINNOCENCEnGREAT TAMINGnMOUTH CORNERS
nGREAT PREPONDERANCEnTHE ABYSMAL WATERrCLINGING FIREnINFLUENCEnDURATIONnRETREATnGREAT POWERnPROGRESS
nDARKENING OF THE LIGHTnTHE FAMILYnOPPOSITIONoBSTRUCTIONnDELIVERANCEpCREASEnINCREASEnBREAKTHROUGH
nCOMING TO MEETnGATHERING TOGETHERnPUSHING UPWARDnOPPRESSIONnTHE WELLnREVOLUTIONnTHE CAULDRON
rAROUSING THUNDERrKEEPING STILL MOUNTAINnDEVELOPMENTnTHE MARRYING MAIDENnABUNDANCEnTHE WANDERER
rGENTLE WINDrJOYOUS LAKEnDISPERSIONnLIMITATIONnINNER TRUTHnSMALL PREPONDERANCEnAFTER COMPLETION
nBEFORE COMPLETION
"

/-! ### Further names -/

def others : String := "
>0aNULL>0daSTART OF HEADING>1bOHbTART OF TEXT>2cXaEND OF TEXT>3bTXbND OF TRANSMISSION>4bOTbNQUIRY>5d
aACKNOWLEDGE>6dbLERT>7aBELbACKSPACE>8bSaCHARACTER TABULATION>9aHORIZONTAL TABULATION>9bT>9aTAB
aLINE FEED>AaNEW LINE>AaEND OF LINE>AaLF>AaNL>AaEOLaLINE TABULATION>BaVERTICAL TABULATION>BbT
aFORM FEED>CbFaCARRIAGE RETURN>DbRaSHIFT OUT>EaLOCKING-SHIFT ONE>EaSObHIFT IN>FaLOCKING-SHIFT ZERO>F
aSIaDATA LINK ESCAPE>10bLEbEVICE CONTROL ONE>11bC1bEVICE CONTROL TWO>12bC2bEVICE CONTROL THREE>13bC3
bEVICE CONTROL FOUR>14bC4aNEGATIVE ACKNOWLEDGE>15bAKaSYNCHRONOUS IDLE>16daEND OF TRANSMISSION BLOCK
>17bTBaCANCEL>18daEND OF MEDIUM>19bOMaSUBSTITUTE>1AdaESCAPE>1BdaINFORMATION SEPARATOR FOUR>1C
aFILE SEPARATOR>1CbSaINFORMATION SEPARATOR THREE>1DaGROUP SEPARATOR>1DbSaINFORMATION SEPARATOR TWO
>1EaRECORD SEPARATOR>1EbSaINFORMATION SEPARATOR ONE>1FaUNIT SEPARATOR>1FbSaSP>7FaDELETE>7Fd
aPADDING CHARACTER>80daHIGH OCTET PRESET>81bOPaBREAK PERMITTED HERE>82bPHaNO BREAK HERE>83bBHaINDEX
>84daNEXT LINE>85cLaSTART OF SELECTED AREA>86bSAaEND OF SELECTED AREA>87bSAaCHARACTER TABULATION SET
>88aHORIZONTAL TABULATION SET>88bTSaCHARACTER TABULATION WITH JUSTIFICATION>89
aHORIZONTAL TABULATION WITH JUSTIFICATION>89bTJaLINE TABULATION SET>8AaVERTICAL TABULATION SET>8AbTS
aPARTIAL LINE FORWARD>8BnDOWN>8BbLDbARTIAL LINE BACKWARD>8CnUP>8CbLUaREVERSE LINE FEED>8DiINDEX>8DbI
aSINGLE SHIFT TWO>8Eg-SHIFT-2>8EbS2bINGLE SHIFT THREE>8Fg-SHIFT-3>8FbS3aDEVICE CONTROL STRING>90bCS
aPRIVATE USE ONE>91l-1>91bU1bRIVATE USE TWO>92l-2>92bU2aSET TRANSMIT STATE>93bTSaCANCEL CHARACTER>94
bCHaMESSAGE WAITING>95bWaSTART OF GUARDED AREA>96jPROTECTED AREA>96bPAaEND OF GUARDED AREA>97
hPROTECTED AREA>97bPAaSTART OF STRING>98bOSbINGLE GRAPHIC CHARACTER INTRODUCER>99bGC
bINGLE CHARACTER INTRODUCER>9AbCIaCONTROL SEQUENCE INTRODUCER>9BbSIaSTRING TERMINATOR>9Cc
aOPERATING SYSTEM COMMAND>9DbSCaPRIVACY MESSAGE>9EbMaAPPLICATION PROGRAM COMMAND>9FcCaNBSP>ADaSHY
>1A2aLATIN CAPITAL LETTER GHAgSMALL LETTER GHA>34FaCGJ>61CaALM>709
aSYRIAC SUBLINEAR COLON SKEWED LEFT>CDEaKANNADA LETTER LLLA>E9DaLAO LETTER FO FON>E9FpAY>EA3lRO>EA5
lLO>FD0aTIBETAN MARK BKA- SHOG GI MGO RGYAN>11ECaHANGUL JONGSEONG YESIEUNG-KIYEOKàSSANGKIYEOK
rSSANGYESIEUNGrYESIEUNG-KHIEUKH>180BaFVS1d2d3aMVSaFVS4>200BaZWSPcNJcJaLRMaRLM>202AaLREaRLEaPDFaLRO
aRLOaNNBSP>205FaMMSPaWJ>2066aLRIaRLIaFSIaPDI>2118aWEIERSTRASS ELLIPTIC FUNCTION>2448
aMICR ON US SYMBOLfDASH SYMBOL>2B7AaLEFTWARDS TRIANGLE-HEADED ARROW WITH DOUBLE VERTICAL STROKE>2B7C
aRIGHTWARDS TRIANGLE-HEADED ARROW WITH DOUBLE VERTICAL STROKE>A015aYI SYLLABLE ITERATION MARK>AA6E
aMYANMAR LETTER KHAMTI LLA>FE00aVS1c2c3c4c5c6c7c8c9c10d1d2d3d4d5d6>FE18
aPRESENTATION FORM FOR VERTICAL RIGHT WHITE LENTICULAR BRACKET>FEFFaBYTE ORDER MARK>FEFFbOM>FEFF
aZWNBSP>122D4aCUNEIFORM SIGN NU11 TENUuOVER NU11 BUR OVER BUR>16E56aMEDEFAIDRIN CAPITAL LETTER HáNG
>16E76mSMALL LETTER HzNG>1B001aHENTAIGANA LETTER E-1>1D0C5
aBYZANTINE MUSICAL SYMBOL FTHORA SKLIRON CHROMA VASIS>E0100aVS17d8d9c20d1d2d3d4d5d6d7d8d9c30d1d2d3d4
d5d6d7d8d9c40d1d2d3d4d5d6d7d8d9c50d1d2d3d4d5d6d7d8d9c60d1d2d3d4d5d6d7d8d9c70d1d2d3d4d5d6d7d8d9c80d1
d2d3d4d5d6d7d8d9c90d1d2d3d4d5d6d7d8d9c100e1e2e3e4e5e6e7e8e9d10e1e2e3e4e5e6e7e8e9d20e1e2e3e4e5e6e7e8
e9d30e1e2e3e4e5e6e7e8e9d40e1e2e3e4e5e6e7e8e9d50e1e2e3e4e5e6e7e8e9d60e1e2e3e4e5e6e7e8e9d70e1e2e3e4e5
e6e7e8e9d80e1e2e3e4e5e6e7e8e9d90e1e2e3e4e5e6e7e8e9c200e1e2e3e4e5e6e7e8e9d10e1e2e3e4e5e6e7e8e9d20e1e2
e3e4e5e6e7e8e9d30e1e2e3e4e5e6e7e8e9d40e1e2e3e4e5e6e7e8e9d50e1e2e3e4e5e6
"

end Scalpel.Text.CharName

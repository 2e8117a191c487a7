import Scalpel.Text.CharName.Table

/-!
The names of letters, marks and digits of the first alphabets: from Latin, Greek, Cyrillic, Hebrew and
Arabic to the scripts of India and Tibet.
-/

set_option autoImplicit false

namespace Scalpel.Text.CharName

def alphabets : String := "
>20aSPACEaEXCLAMATION MARKaQUOTATION MARKaNUMBER SIGNaDOLLAR SIGNaPERCENT SIGNaAMPERSANDbPOSTROPHE
aLEFT PARENTHESISaRIGHT PARENTHESISaASTERISKaPLUS SIGNaCOMMAaHYPHEN-MINUSaFULL STOPaSOLIDUS
aDIGIT ZEROgONEgTWOhHREEgFOURhIVEgSIXhEVENgEIGHTgNINEaCOLONaSEMICOLONaLESS-THAN SIGNaEQUALS SIGN
aGREATER-THAN SIGNaQUESTION MARKaCOMMERCIAL ATaLATIN CAPITAL LETTER AvBvCvDvEvFvGvHvIvJvKvLvMvNvOvP
vQvRvSvTvUvVvWvXvYvZbEFT SQUARE BRACKETaREVERSE SOLIDUSbIGHT SQUARE BRACKETaCIRCUMFLEX ACCENT
aLOW LINEaGRAVE ACCENTaLATIN SMALL LETTER AtBtCtDtEtFtGtHtItJtKtLtMtNtOtPtQtRtStTtUtVtWtXtYtZ
bEFT CURLY BRACKETaVERTICAL LINEaRIGHT CURLY BRACKETaTILDE>A0aNO-BREAK SPACE
aINVERTED EXCLAMATION MARKaCENT SIGNaPOUND SIGNaCURRENCY SIGNaYEN SIGNaBROKEN BARaSECTION SIGN
aDIAERESISaCOPYRIGHT SIGNaFEMININE ORDINAL INDICATORaLEFT-POINTING DOUBLE ANGLE QUOTATION MARK
aNOT SIGNaSOFT HYPHENaREGISTERED SIGNaMACRONaDEGREE SIGNaPLUS-MINUS SIGNaSUPERSCRIPT TWOnHREE
aACUTE ACCENTaMICRO SIGNaPILCROW SIGNaMIDDLE DOTaCEDILLAaSUPERSCRIPT ONEaMASCULINE ORDINAL INDICATOR
aRIGHT-POINTING DOUBLE ANGLE QUOTATION MARKaVULGAR FRACTION ONE QUARTERuHALFqTHREE QUARTERS
aINVERTED QUESTION MARKaLATIN CAPITAL LETTER A WITH GRAVEâACUTEâCIRCUMFLEXâTILDEâDIAERESIS
âRING ABOVEwEvC WITH CEDILLAvE WITH GRAVEâACUTEâCIRCUMFLEXâDIAERESISvI WITH GRAVEâACUTEâCIRCUMFLEX
âDIAERESISvETHvN WITH TILDEvO WITH GRAVEâACUTEâCIRCUMFLEXâTILDEâDIAERESISaMULTIPLICATION SIGN
aLATIN CAPITAL LETTER O WITH STROKEvU WITH GRAVEâACUTEâCIRCUMFLEXâDIAERESISvY WITH ACUTEvTHORN
gSMALL LETTER SHARP StA WITH GRAVEàACUTEàCIRCUMFLEXàTILDEàDIAERESISàRING ABOVEuEtC WITH CEDILLA
tE WITH GRAVEàACUTEàCIRCUMFLEXàDIAERESIStI WITH GRAVEàACUTEàCIRCUMFLEXàDIAERESIStETHtN WITH TILDE
tO WITH GRAVEàACUTEàCIRCUMFLEXàTILDEàDIAERESISaDIVISION SIGNaLATIN SMALL LETTER O WITH STROKE
tU WITH GRAVEàACUTEàCIRCUMFLEXàDIAERESIStY WITH ACUTEtTHORNtY WITH DIAERESIS
gCAPITAL LETTER A WITH MACRONgSMALL LETTER A WITH MACRONgCAPITAL LETTER A WITH BREVE
gSMALL LETTER A WITH BREVEgCAPITAL LETTER A WITH OGONEKgSMALL LETTER A WITH OGONEK
gCAPITAL LETTER C WITH ACUTEgSMALL LETTER C WITH ACUTEgCAPITAL LETTER C WITH CIRCUMFLEX
gSMALL LETTER C WITH CIRCUMFLEXgCAPITAL LETTER C WITH DOT ABOVEgSMALL LETTER C WITH DOT ABOVE
gCAPITAL LETTER C WITH CARONgSMALL LETTER C WITH CARONgCAPITAL LETTER D WITH CARON
gSMALL LETTER D WITH CARONgCAPITAL LETTER D WITH STROKEgSMALL LETTER D WITH STROKE
gCAPITAL LETTER E WITH MACRONgSMALL LETTER E WITH MACRONgCAPITAL LETTER E WITH BREVE
gSMALL LETTER E WITH BREVEgCAPITAL LETTER E WITH DOT ABOVEgSMALL LETTER E WITH DOT ABOVE
gCAPITAL LETTER E WITH OGONEKgSMALL LETTER E WITH OGONEKgCAPITAL LETTER E WITH CARON
gSMALL LETTER E WITH CARONgCAPITAL LETTER G WITH CIRCUMFLEXgSMALL LETTER G WITH CIRCUMFLEX
gCAPITAL LETTER G WITH BREVEgSMALL LETTER G WITH BREVEgCAPITAL LETTER G WITH DOT ABOVE
gSMALL LETTER G WITH DOT ABOVEgCAPITAL LETTER G WITH CEDILLAgSMALL LETTER G WITH CEDILLA
gCAPITAL LETTER H WITH CIRCUMFLEXgSMALL LETTER H WITH CIRCUMFLEXgCAPITAL LETTER H WITH STROKE
gSMALL LETTER H WITH STROKEgCAPITAL LETTER I WITH TILDEgSMALL LETTER I WITH TILDE
gCAPITAL LETTER I WITH MACRONgSMALL LETTER I WITH MACRONgCAPITAL LETTER I WITH BREVE
gSMALL LETTER I WITH BREVEgCAPITAL LETTER I WITH OGONEKgSMALL LETTER I WITH OGONEK
gCAPITAL LETTER I WITH DOT ABOVEgSMALL LETTER DOTLESS IgCAPITAL LIGATURE IJgSMALL LIGATURE IJ
gCAPITAL LETTER J WITH CIRCUMFLEXgSMALL LETTER J WITH CIRCUMFLEXgCAPITAL LETTER K WITH CEDILLA
gSMALL LETTER K WITH CEDILLAuRAgCAPITAL LETTER L WITH ACUTEgSMALL LETTER L WITH ACUTE
gCAPITAL LETTER L WITH CEDILLAgSMALL LETTER L WITH CEDILLAgCAPITAL LETTER L WITH CARON
gSMALL LETTER L WITH CARONgCAPITAL LETTER L WITH MIDDLE DOTgSMALL LETTER L WITH MIDDLE DOT
gCAPITAL LETTER L WITH STROKEgSMALL LETTER L WITH STROKEgCAPITAL LETTER N WITH ACUTE
gSMALL LETTER N WITH ACUTEgCAPITAL LETTER N WITH CEDILLAgSMALL LETTER N WITH CEDILLA
gCAPITAL LETTER N WITH CARONgSMALL LETTER N WITH CARONvPRECEDED BY APOSTROPHEgCAPITAL LETTER ENG
gSMALL LETTER ENGgCAPITAL LETTER O WITH MACRONgSMALL LETTER O WITH MACRON
gCAPITAL LETTER O WITH BREVEgSMALL LETTER O WITH BREVEgCAPITAL LETTER O WITH DOUBLE ACUTE
gSMALL LETTER O WITH DOUBLE ACUTEgCAPITAL LIGATURE OEgSMALL LIGATURE OEgCAPITAL LETTER R WITH ACUTE
gSMALL LETTER R WITH ACUTEgCAPITAL LETTER R WITH CEDILLAgSMALL LETTER R WITH CEDILLA
gCAPITAL LETTER R WITH CARONgSMALL LETTER R WITH CARONgCAPITAL LETTER S WITH ACUTE
gSMALL LETTER S WITH ACUTEgCAPITAL LETTER S WITH CIRCUMFLEXgSMALL LETTER S WITH CIRCUMFLEX
gCAPITAL LETTER S WITH CEDILLAgSMALL LETTER S WITH CEDILLAgCAPITAL LETTER S WITH CARON
gSMALL LETTER S WITH CARONgCAPITAL LETTER T WITH CEDILLAgSMALL LETTER T WITH CEDILLA
gCAPITAL LETTER T WITH CARONgSMALL LETTER T WITH CARONgCAPITAL LETTER T WITH STROKE
gSMALL LETTER T WITH STROKEgCAPITAL LETTER U WITH TILDEgSMALL LETTER U WITH TILDE
gCAPITAL LETTER U WITH MACRONgSMALL LETTER U WITH MACRONgCAPITAL LETTER U WITH BREVE
gSMALL LETTER U WITH BREVEgCAPITAL LETTER U WITH RING ABOVEgSMALL LETTER U WITH RING ABOVE
gCAPITAL LETTER U WITH DOUBLE ACUTEgSMALL LETTER U WITH DOUBLE ACUTEgCAPITAL LETTER U WITH OGONEK
gSMALL LETTER U WITH OGONEKgCAPITAL LETTER W WITH CIRCUMFLEXgSMALL LETTER W WITH CIRCUMFLEX
gCAPITAL LETTER Y WITH CIRCUMFLEXgSMALL LETTER Y WITH CIRCUMFLEXgCAPITAL LETTER Y WITH DIAERESIS
vZ WITH ACUTEgSMALL LETTER Z WITH ACUTEgCAPITAL LETTER Z WITH DOT ABOVE
gSMALL LETTER Z WITH DOT ABOVEgCAPITAL LETTER Z WITH CARONgSMALL LETTER Z WITH CARONtLONG S
tB WITH STROKEgCAPITAL LETTER B WITH HOOKâTOPBARgSMALL LETTER B WITH TOPBARgCAPITAL LETTER TONE SIX
gSMALL LETTER TONE SIXgCAPITAL LETTER OPEN OvC WITH HOOKgSMALL LETTER C WITH HOOK
gCAPITAL LETTER AFRICAN DvD WITH HOOKâTOPBARgSMALL LETTER D WITH TOPBARtTURNED DELTA
gCAPITAL LETTER REVERSED EvSCHWAvOPEN EvF WITH HOOKgSMALL LETTER F WITH HOOK
gCAPITAL LETTER G WITH HOOKwAMMAgSMALL LETTER HVgCAPITAL LETTER IOTAw WITH STROKEvK WITH HOOK
gSMALL LETTER K WITH HOOKtL WITH BARuAMBDA WITH STROKEgCAPITAL LETTER TURNED MvN WITH LEFT HOOK
gSMALL LETTER N WITH LONG RIGHT LEGgCAPITAL LETTER O WITH MIDDLE TILDEâHORNgSMALL LETTER O WITH HORN
gCAPITAL LETTER OIgSMALL LETTER OIgCAPITAL LETTER P WITH HOOKgSMALL LETTER P WITH HOOKgLETTER YR
gCAPITAL LETTER TONE TWOgSMALL LETTER TONE TWOgCAPITAL LETTER ESHgLETTER REVERSED ESH LOOP
gSMALL LETTER T WITH PALATAL HOOKgCAPITAL LETTER T WITH HOOKgSMALL LETTER T WITH HOOK
gCAPITAL LETTER T WITH RETROFLEX HOOKvU WITH HORNgSMALL LETTER U WITH HORNgCAPITAL LETTER UPSILON
vV WITH HOOKvY WITH HOOKgSMALL LETTER Y WITH HOOKgCAPITAL LETTER Z WITH STROKE
gSMALL LETTER Z WITH STROKEgCAPITAL LETTER EZHy REVERSEDgSMALL LETTER EZH REVERSEDxWITH TAIL
gLETTER TWO WITH STROKEgCAPITAL LETTER TONE FIVEgSMALL LETTER TONE FIVE
gLETTER INVERTED GLOTTAL STOP WITH STROKEnWYNNnDENTAL CLICKnLATERAL CLICKnALVEOLAR CLICK
nRETROFLEX CLICKgCAPITAL LETTER DZ WITH CARONw WITH SMALL LETTER Z WITH CARON
gSMALL LETTER DZ WITH CARONgCAPITAL LETTER LJw WITH SMALL LETTER JgSMALL LETTER LJgCAPITAL LETTER NJ
w WITH SMALL LETTER JgSMALL LETTER NJgCAPITAL LETTER A WITH CARONgSMALL LETTER A WITH CARON
gCAPITAL LETTER I WITH CARONgSMALL LETTER I WITH CARONgCAPITAL LETTER O WITH CARON
gSMALL LETTER O WITH CARONgCAPITAL LETTER U WITH CARONgSMALL LETTER U WITH CARON
gCAPITAL LETTER U WITH DIAERESIS AND MACRONgSMALL LETTER U WITH DIAERESIS AND MACRON
gCAPITAL LETTER U WITH DIAERESIS AND ACUTEgSMALL LETTER U WITH DIAERESIS AND ACUTE
gCAPITAL LETTER U WITH DIAERESIS AND CARONgSMALL LETTER U WITH DIAERESIS AND CARON
gCAPITAL LETTER U WITH DIAERESIS AND GRAVEgSMALL LETTER U WITH DIAERESIS AND GRAVEtTURNED E
gCAPITAL LETTER A WITH DIAERESIS AND MACRONgSMALL LETTER A WITH DIAERESIS AND MACRON
gCAPITAL LETTER A WITH DOT ABOVE AND MACRONgSMALL LETTER A WITH DOT ABOVE AND MACRON
gCAPITAL LETTER AE WITH MACRONgSMALL LETTER AE WITH MACRONgCAPITAL LETTER G WITH STROKE
gSMALL LETTER G WITH STROKEgCAPITAL LETTER G WITH CARONgSMALL LETTER G WITH CARON
gCAPITAL LETTER K WITH CARONgSMALL LETTER K WITH CARONgCAPITAL LETTER O WITH OGONEK
gSMALL LETTER O WITH OGONEKgCAPITAL LETTER O WITH OGONEK AND MACRON
gSMALL LETTER O WITH OGONEK AND MACRONgCAPITAL LETTER EZH WITH CARONgSMALL LETTER EZH WITH CARON
tJ WITH CARONgCAPITAL LETTER DZw WITH SMALL LETTER ZgSMALL LETTER DZgCAPITAL LETTER G WITH ACUTE
gSMALL LETTER G WITH ACUTEgCAPITAL LETTER HWAIRvWYNNvN WITH GRAVEgSMALL LETTER N WITH GRAVE
gCAPITAL LETTER A WITH RING ABOVE AND ACUTEgSMALL LETTER A WITH RING ABOVE AND ACUTE
gCAPITAL LETTER AE WITH ACUTEgSMALL LETTER AE WITH ACUTEgCAPITAL LETTER O WITH STROKE AND ACUTE
gSMALL LETTER O WITH STROKE AND ACUTEgCAPITAL LETTER A WITH DOUBLE GRAVE
gSMALL LETTER A WITH DOUBLE GRAVEgCAPITAL LETTER A WITH INVERTED BREVE
gSMALL LETTER A WITH INVERTED BREVEgCAPITAL LETTER E WITH DOUBLE GRAVE
gSMALL LETTER E WITH DOUBLE GRAVEgCAPITAL LETTER E WITH INVERTED BREVE
gSMALL LETTER E WITH INVERTED BREVEgCAPITAL LETTER I WITH DOUBLE GRAVE
gSMALL LETTER I WITH DOUBLE GRAVEgCAPITAL LETTER I WITH INVERTED BREVE
gSMALL LETTER I WITH INVERTED BREVEgCAPITAL LETTER O WITH DOUBLE GRAVE
gSMALL LETTER O WITH DOUBLE GRAVEgCAPITAL LETTER O WITH INVERTED BREVE
gSMALL LETTER O WITH INVERTED BREVEgCAPITAL LETTER R WITH DOUBLE GRAVE
gSMALL LETTER R WITH DOUBLE GRAVEgCAPITAL LETTER R WITH INVERTED BREVE
gSMALL LETTER R WITH INVERTED BREVEgCAPITAL LETTER U WITH DOUBLE GRAVE
gSMALL LETTER U WITH DOUBLE GRAVEgCAPITAL LETTER U WITH INVERTED BREVE
gSMALL LETTER U WITH INVERTED BREVEgCAPITAL LETTER S WITH COMMA BELOW
gSMALL LETTER S WITH COMMA BELOWgCAPITAL LETTER T WITH COMMA BELOWgSMALL LETTER T WITH COMMA BELOW
gCAPITAL LETTER YOGHgSMALL LETTER YOGHgCAPITAL LETTER H WITH CARONgSMALL LETTER H WITH CARON
gCAPITAL LETTER N WITH LONG RIGHT LEGgSMALL LETTER D WITH CURLgCAPITAL LETTER OUgSMALL LETTER OU
gCAPITAL LETTER Z WITH HOOKgSMALL LETTER Z WITH HOOKgCAPITAL LETTER A WITH DOT ABOVE
gSMALL LETTER A WITH DOT ABOVEgCAPITAL LETTER E WITH CEDILLAgSMALL LETTER E WITH CEDILLA
gCAPITAL LETTER O WITH DIAERESIS AND MACRONgSMALL LETTER O WITH DIAERESIS AND MACRON
gCAPITAL LETTER O WITH TILDE AND MACRONgSMALL LETTER O WITH TILDE AND MACRON
gCAPITAL LETTER O WITH DOT ABOVEgSMALL LETTER O WITH DOT ABOVE
gCAPITAL LETTER O WITH DOT ABOVE AND MACRONgSMALL LETTER O WITH DOT ABOVE AND MACRON
gCAPITAL LETTER Y WITH MACRONgSMALL LETTER Y WITH MACRONtL WITH CURLtN WITH CURLtT WITH CURL
tDOTLESS JuB DIGRAPHtQP DIGRAPHgCAPITAL LETTER A WITH STROKEvC WITH STROKE
gSMALL LETTER C WITH STROKEgCAPITAL LETTER L WITH BARvT WITH DIAGONAL STROKE
gSMALL LETTER S WITH SWASH TAILtZ WITH SWASH TAILgCAPITAL LETTER GLOTTAL STOP
gSMALL LETTER GLOTTAL STOPgCAPITAL LETTER B WITH STROKEvU BARvTURNED VvE WITH STROKE
gSMALL LETTER E WITH STROKEgCAPITAL LETTER J WITH STROKEgSMALL LETTER J WITH STROKE
gCAPITAL LETTER SMALL Q WITH HOOK TAILgSMALL LETTER Q WITH HOOK TAILgCAPITAL LETTER R WITH STROKE
gSMALL LETTER R WITH STROKEgCAPITAL LETTER Y WITH STROKEgSMALL LETTER Y WITH STROKEtTURNED AtALPHA
tTURNED ALPHAtB WITH HOOKtOPEN OtC WITH CURLtD WITH TAILàHOOKtREVERSED EtSCHWAy WITH HOOKtOPEN E
tREVERSED OPEN Eè WITH HOOKtCLOSED REVERSED OPEN EtDOTLESS J WITH STROKEtG WITH HOOKtSCRIPT G
gLETTER SMALL CAPITAL GgSMALL LETTER GAMMAtRAMS HORNtTURNED HtH WITH HOOKuENG WITH HOOK
tI WITH STROKEuOTAgLETTER SMALL CAPITAL IgSMALL LETTER L WITH MIDDLE TILDEàBELTàRETROFLEX HOOKuEZH
tTURNED Má WITH LONG LEGtM WITH HOOKtN WITH LEFT HOOKàRETROFLEX HOOKgLETTER SMALL CAPITAL N
gSMALL LETTER BARRED OgLETTER SMALL CAPITAL OEgSMALL LETTER CLOSED OMEGAtPHItTURNED Rá WITH LONG LEG
çHOOKtR WITH LONG LEGàTAILàFISHHOOKuEVERSED R WITH FISHHOOKgLETTER SMALL CAPITAL RáINVERTED R
gSMALL LETTER S WITH HOOKtESHtDOTLESS J WITH STROKE AND HOOKtSQUAT REVERSED ESHtESH WITH CURL
tTURNED Tu WITH RETROFLEX HOOKtU BARuPSILONtV WITH HOOKtTURNED VàWàYgLETTER SMALL CAPITAL Y
gSMALL LETTER Z WITH RETROFLEX HOOKàCURLtEZHw WITH CURLgLETTER GLOTTAL STOP
nPHARYNGEAL VOICED FRICATIVEnINVERTED GLOTTAL STOPnSTRETCHED CnBILABIAL CLICKnSMALL CAPITAL B
gSMALL LETTER CLOSED OPEN EgLETTER SMALL CAPITAL G WITH HOOKáHgSMALL LETTER J WITH CROSSED-TAIL
tTURNED KgLETTER SMALL CAPITAL LgSMALL LETTER Q WITH HOOKgLETTER GLOTTAL STOP WITH STROKE
nREVERSED GLOTTAL STOP WITH STROKEgSMALL LETTER DZ DIGRAPHuEZH DIGRAPHuZ DIGRAPH WITH CURL
tTS DIGRAPHuESH DIGRAPHuC DIGRAPH WITH CURLtFENG DIGRAPHtLS DIGRAPHuZ DIGRAPH
gLETTER BILABIAL PERCUSSIVEpDENTAL PERCUSSIVEgSMALL LETTER TURNED H WITH FISHHOOKï AND TAIL
aMODIFIER LETTER SMALL Hx WITH HOOKwJwRwTURNED Rä WITH HOOKwCAPITAL INVERTED RwWwYqPRIME
qDOUBLE PRIMEqTURNED COMMAqAPOSTROPHEqREVERSED COMMArIGHT HALF RINGqLEFT HALF RINGqGLOTTAL STOP
qREVERSED GLOTTAL STOPqLEFT ARROWHEADqRIGHT ARROWHEADqUP ARROWHEADqDOWN ARROWHEADqCIRCUMFLEX ACCENT
aCARONaMODIFIER LETTER VERTICAL LINEqMACRONqACUTE ACCENTqGRAVE ACCENTqLOW VERTICAL LINEuMACRON
uGRAVE ACCENTuACUTE ACCENTqTRIANGULAR COLONqHALF TRIANGULAR COLONqCENTRED RIGHT HALF RING
yLEFT HALF RINGqUP TACKqDOWN TACKqPLUS SIGNqMINUS SIGNaBREVEaDOT ABOVEaRING ABOVEaOGONEKaSMALL TILDE
aDOUBLE ACUTE ACCENTaMODIFIER LETTER RHOTIC HOOKqCROSS ACCENTqSMALL GAMMAwLwSwX
wREVERSED GLOTTAL STOPqEXTRA-HIGH TONE BARqHIGH TONE BARqMID TONE BARqLOW TONE BAR
qEXTRA-LOW TONE BARqYIN DEPARTING TONE MARKrANG DEPARTING TONE MARKqVOICINGqUNASPIRATED
qDOUBLE APOSTROPHEqLOW DOWN ARROWHEADuUP ARROWHEADuLEFT ARROWHEADuRIGHT ARROWHEADwNG
qMIDDLE GRAVE ACCENTxDOUBLE GRAVE ACCENTäACUTE ACCENTqLOW TILDEqRAISED COLONqBEGIN HIGH TONE
qEND HIGH TONEqBEGIN LOW TONEqEND LOW TONEqSHELFqOPEN SHELFqLOW LEFT ARROWaCOMBINING GRAVE ACCENT
kACUTE ACCENTkCIRCUMFLEX ACCENTkTILDEkMACRONkOVERLINEkBREVEkDOT ABOVElIAERESISkHOOK ABOVEkRING ABOVE
kDOUBLE ACUTE ACCENTkCARONkVERTICAL LINE ABOVEkDOUBLE VERTICAL LINE ABOVErGRAVE ACCENTkCANDRABINDU
kINVERTED BREVEkTURNED COMMA ABOVEkCOMMA ABOVEkREVERSED COMMA ABOVEkCOMMA ABOVE RIGHT
kGRAVE ACCENT BELOWkACUTE ACCENT BELOWkLEFT TACK BELOWkRIGHT TACK BELOWkLEFT ANGLE ABOVEkHORN
kLEFT HALF RING BELOWkUP TACK BELOWkDOWN TACK BELOWkPLUS SIGN BELOWkMINUS SIGN BELOW
kPALATALIZED HOOK BELOWkRETROFLEX HOOK BELOWkDOT BELOWlIAERESIS BELOWkRING BELOWkCOMMA BELOWlEDILLA
kOGONEKkVERTICAL LINE BELOWkBRIDGE BELOWkINVERTED DOUBLE ARCH BELOWkCARON BELOW
lIRCUMFLEX ACCENT BELOWkBREVE BELOWkINVERTED BREVE BELOWkTILDE BELOWkMACRON BELOWkLOW LINE
kDOUBLE LOW LINEkTILDE OVERLAYkSHORT STROKE OVERLAYkLONG STROKE OVERLAYkSHORT SOLIDUS OVERLAY
kLONG SOLIDUS OVERLAYkRIGHT HALF RING BELOWkINVERTED BRIDGE BELOWkSQUARE BELOWlEAGULL BELOWkX ABOVE
kVERTICAL TILDEkDOUBLE OVERLINEkGRAVE TONE MARKkACUTE TONE MARKkGREEK PERISPOMENIqKORONIS
qDIALYTIKA TONOSqYPOGEGRAMMENIkBRIDGE ABOVEkEQUALS SIGN BELOWkDOUBLE VERTICAL LINE BELOW
kLEFT ANGLE BELOWkNOT TILDE ABOVEkHOMOTHETIC ABOVEkALMOST EQUAL TO ABOVEkLEFT RIGHT ARROW BELOW
kUPWARDS ARROW BELOWkGRAPHEME JOINERkRIGHT ARROWHEAD ABOVEkLEFT HALF RING ABOVEkFERMATAkX BELOW
kLEFT ARROWHEAD BELOWkRIGHT ARROWHEAD BELOWàAND UP ARROWHEAD BELOWqHALF RING ABOVEkDOT ABOVE RIGHT
kASTERISK BELOWkDOUBLE RING BELOWkZIGZAG ABOVEkDOUBLE BREVE BELOWwrMACRONx BELOWrTILDE
rINVERTED BREVErRIGHTWARDS ARROW BELOWkLATIN SMALL LETTER AãEãIãOãUãCãDãHãMãRãTãVãX
aGREEK CAPITAL LETTER HETAgSMALL LETTER HETAgCAPITAL LETTER ARCHAIC SAMPIgSMALL LETTER ARCHAIC SAMPI
gNUMERAL SIGNgLOWER NUMERAL SIGNgCAPITAL LETTER PAMPHYLIAN DIGAMMAgSMALL LETTER PAMPHYLIAN DIGAMMA
>37AgYPOGEGRAMMENIgSMALL REVERSED LUNATE SIGMA SYMBOLmDOTTED LUNATE SIGMA SYMBOL
mREVERSED DOTTED LUNATE SIGMA SYMBOLgQUESTION MARKgCAPITAL LETTER YOT>384gTONOSgDIALYTIKA TONOS
gCAPITAL LETTER ALPHA WITH TONOSgANO TELEIAgCAPITAL LETTER EPSILON WITH TONOSwTA WITH TONOS
vIOTA WITH TONOS>38CvOMICRON WITH TONOS>38EvUPSILON WITH TONOSvOMEGA WITH TONOS
gSMALL LETTER IOTA WITH DIALYTIKA AND TONOSgCAPITAL LETTER ALPHAvBETAvGAMMAvDELTAvEPSILONvZETAvETA
vTHETAvIOTAvKAPPAvLAMDAvMUvNUvXIvOMICRONvPIvRHO>3A3vSIGMAvTAUvUPSILONvPHIvCHIvPSIvOMEGA
vIOTA WITH DIALYTIKAvUPSILON WITH DIALYTIKAgSMALL LETTER ALPHA WITH TONOStEPSILON WITH TONOS
uTA WITH TONOStIOTA WITH TONOStUPSILON WITH DIALYTIKA AND TONOStALPHAtBETAtGAMMAtDELTAtEPSILONtZETA
tETAtTHETAtIOTAtKAPPAtLAMDAtMUtNUtXItOMICRONtPItRHOtFINAL SIGMAtSIGMAtTAUtUPSILONtPHItCHItPSItOMEGA
tIOTA WITH DIALYTIKAtUPSILON WITH DIALYTIKAtOMICRON WITH TONOStUPSILON WITH TONOStOMEGA WITH TONOS
gCAPITAL KAI SYMBOLgBETA SYMBOLgTHETA SYMBOLgUPSILON WITH HOOK SYMBOLtACUTE AND HOOK SYMBOL
tDIAERESIS AND HOOK SYMBOLgPHI SYMBOLhI SYMBOLgKAI SYMBOLgLETTER ARCHAIC KOPPA
gSMALL LETTER ARCHAIC KOPPAgLETTER STIGMAgSMALL LETTER STIGMAgLETTER DIGAMMAgSMALL LETTER DIGAMMA
gLETTER KOPPAgSMALL LETTER KOPPAgLETTER SAMPIgSMALL LETTER SAMPIaCOPTIC CAPITAL LETTER SHEI
hSMALL LETTER SHEIhCAPITAL LETTER FEIhSMALL LETTER FEIhCAPITAL LETTER KHEIhSMALL LETTER KHEI
hCAPITAL LETTER HORIhSMALL LETTER HORIhCAPITAL LETTER GANGIAhSMALL LETTER GANGIA
hCAPITAL LETTER SHIMAhSMALL LETTER SHIMAhCAPITAL LETTER DEIhSMALL LETTER DEIaGREEK KAPPA SYMBOL
gRHO SYMBOLgLUNATE SIGMA SYMBOLhETTER YOTgCAPITAL THETA SYMBOLgLUNATE EPSILON SYMBOL
gREVERSED LUNATE EPSILON SYMBOLgCAPITAL LETTER SHOgSMALL LETTER SHOgCAPITAL LUNATE SIGMA SYMBOL
pETTER SANgSMALL LETTER SANgRHO WITH STROKE SYMBOLgCAPITAL REVERSED LUNATE SIGMA SYMBOL
oDOTTED LUNATE SIGMA SYMBOLoREVERSED DOTTED LUNATE SIGMA SYMBOL
aCYRILLIC CAPITAL LETTER IE WITH GRAVEzOyDJEyGJEyUKRAINIAN IEyDZEyBYELORUSSIAN-UKRAINIAN IyYIyJEyLJE
yNJEyTSHEyKJEyI WITH GRAVEySHORT UyDZHEyAyBEyVEyGHEyDEyIEyZHEzEyIySHORT IyKAyELzMzNyOyPEyERzSyTEyU
yEFyHAyTSEyCHEySHAàCHAyHARD SIGNyYERUySOFT SIGNyEyYUzAjSMALL LETTER AwBEwVEwGHEwDEwIEwZHExEwI
wSHORT IwKAwELxMxNwOwPEwERxSwTEwUwEFwHAwTSEwCHEwSHAyCHAwHARD SIGNwYERUwSOFT SIGNwEwYUxA
wIE WITH GRAVExOwDJEwGJEwUKRAINIAN IEwDZEwBYELORUSSIAN-UKRAINIAN IwYIwJEwLJEwNJEwTSHEwKJE
wI WITH GRAVEwSHORT UwDZHEjCAPITAL LETTER OMEGAjSMALL LETTER OMEGAjCAPITAL LETTER YAT
jSMALL LETTER YATjCAPITAL LETTER IOTIFIED EjSMALL LETTER IOTIFIED EjCAPITAL LETTER LITTLE YUS
jSMALL LETTER LITTLE YUSjCAPITAL LETTER IOTIFIED LITTLE YUSjSMALL LETTER IOTIFIED LITTLE YUS
jCAPITAL LETTER BIG YUSjSMALL LETTER BIG YUSjCAPITAL LETTER IOTIFIED BIG YUS
jSMALL LETTER IOTIFIED BIG YUSjCAPITAL LETTER KSIjSMALL LETTER KSIjCAPITAL LETTER PSI
jSMALL LETTER PSIjCAPITAL LETTER FITAjSMALL LETTER FITAjCAPITAL LETTER IZHITSAjSMALL LETTER IZHITSA
jCAPITAL LETTER IZHITSA WITH DOUBLE GRAVE ACCENTjSMALL LETTER IZHITSA WITH DOUBLE GRAVE ACCENT
jCAPITAL LETTER UKjSMALL LETTER UKjCAPITAL LETTER ROUND OMEGAjSMALL LETTER ROUND OMEGA
jCAPITAL LETTER OMEGA WITH TITLOjSMALL LETTER OMEGA WITH TITLOjCAPITAL LETTER OTjSMALL LETTER OT
jCAPITAL LETTER KOPPAjSMALL LETTER KOPPAjTHOUSANDS SIGNbOMBINING CYRILLIC TITLOtPALATALIZATION
tDASIA PNEUMATAtPSILI PNEUMATAuOKRYTIEtHUNDRED THOUSANDS SIGNtMILLIONS SIGN
bYRILLIC CAPITAL LETTER SHORT I WITH TAILjSMALL LETTER SHORT I WITH TAIL
jCAPITAL LETTER SEMISOFT SIGNjSMALL LETTER SEMISOFT SIGNjCAPITAL LETTER ER WITH TICK
jSMALL LETTER ER WITH TICKjCAPITAL LETTER GHE WITH UPTURNjSMALL LETTER GHE WITH UPTURN
jCAPITAL LETTER GHE WITH STROKEjSMALL LETTER GHE WITH STROKEjCAPITAL LETTER GHE WITH MIDDLE HOOK
jSMALL LETTER GHE WITH MIDDLE HOOKjCAPITAL LETTER ZHE WITH DESCENDERjSMALL LETTER ZHE WITH DESCENDER
jCAPITAL LETTER ZE WITH DESCENDERjSMALL LETTER ZE WITH DESCENDERjCAPITAL LETTER KA WITH DESCENDER
jSMALL LETTER KA WITH DESCENDERjCAPITAL LETTER KA WITH VERTICAL STROKE
jSMALL LETTER KA WITH VERTICAL STROKEjCAPITAL LETTER KA WITH STROKEjSMALL LETTER KA WITH STROKE
jCAPITAL LETTER BASHKIR KAjSMALL LETTER BASHKIR KAjCAPITAL LETTER EN WITH DESCENDER
jSMALL LETTER EN WITH DESCENDERjCAPITAL LIGATURE EN GHEjSMALL LIGATURE EN GHE
jCAPITAL LETTER PE WITH MIDDLE HOOKjSMALL LETTER PE WITH MIDDLE HOOKjCAPITAL LETTER ABKHASIAN HA
jSMALL LETTER ABKHASIAN HAjCAPITAL LETTER ES WITH DESCENDERjSMALL LETTER ES WITH DESCENDER
jCAPITAL LETTER TE WITH DESCENDERjSMALL LETTER TE WITH DESCENDERjCAPITAL LETTER STRAIGHT U
jSMALL LETTER STRAIGHT UjCAPITAL LETTER STRAIGHT U WITH STROKEjSMALL LETTER STRAIGHT U WITH STROKE
jCAPITAL LETTER HA WITH DESCENDERjSMALL LETTER HA WITH DESCENDERjCAPITAL LIGATURE TE TSE
jSMALL LIGATURE TE TSEjCAPITAL LETTER CHE WITH DESCENDERjSMALL LETTER CHE WITH DESCENDER
jCAPITAL LETTER CHE WITH VERTICAL STROKEjSMALL LETTER CHE WITH VERTICAL STROKEjCAPITAL LETTER SHHA
jSMALL LETTER SHHAjCAPITAL LETTER ABKHASIAN CHEjSMALL LETTER ABKHASIAN CHE
jCAPITAL LETTER ABKHASIAN CHE WITH DESCENDERjSMALL LETTER ABKHASIAN CHE WITH DESCENDER
jLETTER PALOCHKAjCAPITAL LETTER ZHE WITH BREVEjSMALL LETTER ZHE WITH BREVE
jCAPITAL LETTER KA WITH HOOKjSMALL LETTER KA WITH HOOKjCAPITAL LETTER EL WITH TAIL
jSMALL LETTER EL WITH TAILjCAPITAL LETTER EN WITH HOOKjSMALL LETTER EN WITH HOOK
jCAPITAL LETTER EN WITH TAILjSMALL LETTER EN WITH TAILjCAPITAL LETTER KHAKASSIAN CHE
jSMALL LETTER KHAKASSIAN CHEjCAPITAL LETTER EM WITH TAILjSMALL LETTER EM WITH TAILwPALOCHKA
jCAPITAL LETTER A WITH BREVEjSMALL LETTER A WITH BREVEjCAPITAL LETTER A WITH DIAERESIS
jSMALL LETTER A WITH DIAERESISjCAPITAL LIGATURE A IEjSMALL LIGATURE A IE
jCAPITAL LETTER IE WITH BREVEjSMALL LETTER IE WITH BREVEjCAPITAL LETTER SCHWAjSMALL LETTER SCHWA
jCAPITAL LETTER SCHWA WITH DIAERESISjSMALL LETTER SCHWA WITH DIAERESIS
jCAPITAL LETTER ZHE WITH DIAERESISjSMALL LETTER ZHE WITH DIAERESISjCAPITAL LETTER ZE WITH DIAERESIS
jSMALL LETTER ZE WITH DIAERESISjCAPITAL LETTER ABKHASIAN DZEjSMALL LETTER ABKHASIAN DZE
jCAPITAL LETTER I WITH MACRONjSMALL LETTER I WITH MACRONjCAPITAL LETTER I WITH DIAERESIS
jSMALL LETTER I WITH DIAERESISjCAPITAL LETTER O WITH DIAERESISjSMALL LETTER O WITH DIAERESIS
jCAPITAL LETTER BARRED OjSMALL LETTER BARRED OjCAPITAL LETTER BARRED O WITH DIAERESIS
jSMALL LETTER BARRED O WITH DIAERESISjCAPITAL LETTER E WITH DIAERESISjSMALL LETTER E WITH DIAERESIS
jCAPITAL LETTER U WITH MACRONjSMALL LETTER U WITH MACRONjCAPITAL LETTER U WITH DIAERESIS
jSMALL LETTER U WITH DIAERESISjCAPITAL LETTER U WITH DOUBLE ACUTEjSMALL LETTER U WITH DOUBLE ACUTE
jCAPITAL LETTER CHE WITH DIAERESISjSMALL LETTER CHE WITH DIAERESISjCAPITAL LETTER GHE WITH DESCENDER
jSMALL LETTER GHE WITH DESCENDERjCAPITAL LETTER YERU WITH DIAERESISjSMALL LETTER YERU WITH DIAERESIS
jCAPITAL LETTER GHE WITH STROKE AND HOOKjSMALL LETTER GHE WITH STROKE AND HOOK
jCAPITAL LETTER HA WITH HOOKjSMALL LETTER HA WITH HOOKjCAPITAL LETTER HA WITH STROKE
jSMALL LETTER HA WITH STROKEjCAPITAL LETTER KOMI DEjSMALL LETTER KOMI DEjCAPITAL LETTER KOMI DJE
jSMALL LETTER KOMI DJEjCAPITAL LETTER KOMI ZJEjSMALL LETTER KOMI ZJEjCAPITAL LETTER KOMI DZJE
jSMALL LETTER KOMI DZJEjCAPITAL LETTER KOMI LJEjSMALL LETTER KOMI LJEjCAPITAL LETTER KOMI NJE
jSMALL LETTER KOMI NJEjCAPITAL LETTER KOMI SJEjSMALL LETTER KOMI SJEjCAPITAL LETTER KOMI TJE
jSMALL LETTER KOMI TJEjCAPITAL LETTER REVERSED ZEjSMALL LETTER REVERSED ZE
jCAPITAL LETTER EL WITH HOOKjSMALL LETTER EL WITH HOOKjCAPITAL LETTER LHAjSMALL LETTER LHA
jCAPITAL LETTER RHAjSMALL LETTER RHAjCAPITAL LETTER YAEjSMALL LETTER YAEjCAPITAL LETTER QA
jSMALL LETTER QAjCAPITAL LETTER WEjSMALL LETTER WEjCAPITAL LETTER ALEUT KAjSMALL LETTER ALEUT KA
jCAPITAL LETTER EL WITH MIDDLE HOOKjSMALL LETTER EL WITH MIDDLE HOOK
jCAPITAL LETTER EN WITH MIDDLE HOOKjSMALL LETTER EN WITH MIDDLE HOOK
jCAPITAL LETTER PE WITH DESCENDERjSMALL LETTER PE WITH DESCENDERjCAPITAL LETTER SHHA WITH DESCENDER
jSMALL LETTER SHHA WITH DESCENDERjCAPITAL LETTER EN WITH LEFT HOOKjSMALL LETTER EN WITH LEFT HOOK
jCAPITAL LETTER DZZHEjSMALL LETTER DZZHEjCAPITAL LETTER DCHEjSMALL LETTER DCHE
jCAPITAL LETTER EL WITH DESCENDERjSMALL LETTER EL WITH DESCENDER>531aARMENIAN CAPITAL LETTER AYByBEN
yGIMyDAyECHyZAyEHzTyTOyZHEyINIyLIWNyXEHyCAyKENyHOyJAyGHADyCHEHyMENyYIyNOWySHAyVOyCHAyPEHyJHEHyRAySEH
yVEWyTIWNyREHyCOyYIWNyPIWRyKEHyOHyFEH>559jMODIFIER LETTER LEFT HALF RINGjAPOSTROPHEjEMPHASIS MARK
kXCLAMATION MARKjCOMMAjQUESTION MARKjABBREVIATION MARKjSMALL LETTER TURNED AYBwAYBwBENwGIMwDAwECHwZA
wEHxTwTOwZHEwINIwLIWNwXEHwCAwKENwHOwJAwGHADwCHEHwMENwYIwNOWwSHAwVOwCHAwPEHwJHEHwRAwSEHwVEWwTIWNwREH
wCOwYIWNwPIWRwKEHwOHwFEHqIGATURE ECH YIWNqETTER YI WITH STROKEjFULL STOPjHYPHEN>58D
aRIGHT-FACING ARMENIAN ETERNITY SIGNaLEFT-FACING ARMENIAN ETERNITY SIGNaARMENIAN DRAM SIGN>591
aHEBREW ACCENT ETNAHTAoSEGOLpHALSHELEToZAQEF QATANuGADOLoTIPEHAoREVIAoZARQAoPASHTAoYETIVoTEVIR
oGERESHu MUQDAMrSHAYIMoQARNEY PARAoTELISHA GEDOLAoPAZERoATNAH HAFUKHoMUNAHpAHAPAKHpERKHAu KEFULA
oDARGAoQADMAoTELISHA QETANAoYERAH BEN YOMOoOLEoILUYoDEHIoZINORhMARK MASORA CIRCLEhPOINT SHEVA
nHATAF SEGOLtPATAHtQAMATSoIRIQnTSEREnSEGOLnPATAHnQAMATSnHOLAMs HASER FOR VAVnQUBUTSnDAGESH OR MAPIQ
nMETEGiUNCTUATION MAQAFiOINT RAFEiUNCTUATION PASEQiOINT SHIN DOToIN DOTiUNCTUATION SOF PASUQ
hMARK UPPER DOTmLOWER DOThPUNCTUATION NUN HAFUKHAiOINT QAMATS QATAN>5D0hLETTER ALEFoBEToGIMELoDALET
oHEoVAVoZAYINoHEToTEToYODoFINAL KAFoKAFoLAMEDoFINAL MEMoMEMoFINAL NUNoNUNoSAMEKHoAYINoFINAL PEoPE
oFINAL TSADIoTSADIoQOFoRESHoSHINoTAV>5EFhYOD TRIANGLEhLIGATURE YIDDISH DOUBLE VAVyVAV YODyDOUBLE YOD
hPUNCTUATION GERESHwSHAYIM>600aARABIC NUMBER SIGNhSIGN SANAHhFOOTNOTE MARKERhSIGN SAFHAoMVAT
hNUMBER MARK ABOVEg-INDIC CUBE ROOTnFOURTH ROOTg RAYg-INDIC PER MILLE SIGNrTEN THOUSAND SIGN
bFGHANI SIGNbRABIC COMMAhDATE SEPARATORhPOETIC VERSE SIGNhSIGN MISRAmSALLALLAHOU ALAYHE WASSALLAM
mALAYHE ASSALLAMmRAHMATULLAH ALAYHEoDI ALLAHOU ANHUmTAKHALLUSiMALL HIGH TAH
sLIGATURE ALEF WITH LAM WITH YEHsZAINnFATHAnDAMMAnKASRAiEMICOLONhLETTER MARKhEND OF TEXT MARK
hTRIPLE DOT PUNCTUATION MARKhQUESTION MARKhLETTER KASHMIRI YEHoHAMZAoALEF WITH MADDA ABOVE
yHAMZA ABOVEoWAW WITH HAMZA ABOVEoALEF WITH HAMZA BELOWoYEH WITH HAMZA ABOVEoALEFoBEHoTEH MARBUTAr
pHEHoJEEMoHAHoKHAHoDALoTHALoREHoZAINoSEENpHEENpADoDADoTAHoZAHoAINoGHAINoKEHEH WITH TWO DOTS ABOVE
àHREE DOTS BELOWoFARSI YEH WITH INVERTED VãTWO DOTS ABOVEäHREE DOTS ABOVEhTATWEELhLETTER FEHoQAFoKAF
oLAMoMEEMoNOONoHEHoWAWoALEF MAKSURAoYEHhFATHATANhDAMMATANhKASRATANhFATHAhDAMMAhKASRAhSHADDAiUKUN
hMADDAH ABOVEhHAMZA ABOVEnBELOWhSUBSCRIPT ALEFhINVERTED DAMMAhMARK NOON GHUNNAhZWARAKAY
hVOWEL SIGN SMALL V ABOVEsINVERTED SMALL V ABOVEsDOT BELOWhREVERSED DAMMAhFATHA WITH TWO DOTS
hWAVY HAMZA BELOWg-INDIC DIGIT ZEROtONEtTWOuHREEtFOURuIVEtSIXuEVENtEIGHTtNINEg PERCENT SIGN
hDECIMAL SEPARATORhTHOUSANDS SEPARATORhFIVE POINTED STARhLETTER DOTLESS BEHwQAFoSUPERSCRIPT ALEF
oALEF WASLAuITH WAVY HAMZA ABOVEéBELOWoHIGH HAMZAy ALEFzWAWoU WITH HAMZA ABOVEoHIGH HAMZA YEHoTTEH
sEHoBEEHoTEH WITH RINGxTHREE DOTS ABOVE DOWNWARDSoPEHoTEHEHoBEHEHoHAH WITH HAMZA ABOVE
xTWO DOTS VERTICAL ABOVEoNYEHoDYEHoHAH WITH THREE DOTS ABOVEoTCHEHtEHoDDALpAL WITH RINGxDOT BELOW
æ AND SMALL TAHqHALpDAHALpULpAL WITH THREE DOTS ABOVE DOWNWARDSxFOUR DOTS ABOVEoRREHpEH WITH SMALL V
xRINGxDOT BELOWxSMALL V BELOWxDOT BELOW AND DOT ABOVExTWO DOTS ABOVEoJEHoREH WITH FOUR DOTS ABOVE
oSEEN WITH DOT BELOW AND DOT ABOVEyTHREE DOTS BELOWî AND THREE DOTS ABOVEpAD WITH TWO DOTS BELOW
yHREE DOTS ABOVEoTAH WITH THREE DOTS ABOVEoAIN WITH THREE DOTS ABOVEoDOTLESS FEH
oFEH WITH DOT MOVED BELOWáBELOWoVEHoFEH WITH THREE DOTS BELOWoPEHEHoQAF WITH DOT ABOVE
xTHREE DOTS ABOVEoKEHEHoSWASH KAFoKAF WITH RINGxDOT ABOVEoNGoKAF WITH THREE DOTS BELOWoGAF
r WITH RINGoNGOEHoGAF WITH TWO DOTS BELOWpUEHpAF WITH THREE DOTS ABOVEoLAM WITH SMALL VxDOT ABOVE
xTHREE DOTS ABOVEèBELOWoNOON WITH DOT BELOWtGHUNNAoRNOONoNOON WITH RINGyTHREE DOTS ABOVE
oHEH DOACHASHMEEoTCHEH WITH DOT ABOVEoHEH WITH YEH ABOVEsGOALw WITH HAMZA ABOVEoTEH MARBUTA GOAL
oWAW WITH RINGoKIRGHIZ OEoOEoUoYUoKIRGHIZ YUoWAW WITH TWO DOTS ABOVEoVEoFARSI YEHoYEH WITH TAIL
xSMALL VoWAW WITH DOT ABOVEoEoYEH WITH THREE DOTS BELOWsBARREEy WITH HAMZA ABOVEhFULL STOPhLETTER AE
hSMALL HIGH LIGATURE SAD WITH LAM WITH ALEF MAKSURAáQAF WITH LAM WITH ALEF MAKSURAsMEEM INITIAL FORM
sLAM ALEFsJEEMsTHREE DOTSsSEENhEND OF AYAHhSTART OF RUB EL HIZBiMALL HIGH ROUNDED ZERO
sUPRIGHT RECTANGULAR ZEROsDOTLESS HEAD OF KHAHsMEEM ISOLATED FORMnLOW SEENnHIGH MADDAnWAWnYEH
nHIGH YEHsNOONhPLACE OF SAJDAHhEMPTY CENTRE LOW STOPuHIGH STOPhROUNDED HIGH STOP WITH FILLED CENTRE
hSMALL LOW MEEMhLETTER DAL WITH INVERTED VoREH WITH INVERTED VaEXTENDED ARABIC-INDIC DIGIT ZEROâONE
âTWOãHREEâFOURãIVEâSIXãEVENâEIGHTâNINEaARABIC LETTER SHEEN WITH DOT BELOWoDAD WITH DOT BELOW
oGHAIN WITH DOT BELOWhSIGN SINDHI AMPERSANDtPOSTPOSITION MENhLETTER HEH WITH INVERTED V
aSYRIAC END OF PARAGRAPHhSUPRALINEAR FULL STOPjBLINEAR FULL STOPjPRALINEAR COLONjBLINEAR COLON
hHORIZONTAL COLONhCOLON SKEWED LEFTuRIGHThSUPRALINEAR COLON SKEWED LEFTjBLINEAR COLON SKEWED RIGHT
hCONTRACTIONhHARKLEAN OBELUSqMETOBELUSqASTERISCUS>70FhABBREVIATION MARKhLETTER ALAPH
oSUPERSCRIPT ALAPHoBETHoGAMALt GARSHUNIoDALATHpOTLESS DALATH RISHoHEoWAWoZAINoHETHoTETHs GARSHUNI
oYUDHs HEoKAPHoLAMADHoMIMoNUNoSEMKATHoFINAL SEMKATHoEoPEoREVERSED PEoSADHEoQAPHoRISHoSHINoTAW
oPERSIAN BHETHwGHAMALwDHALATHhPTHAHA ABOVEoBELOWoDOTTEDhZQAPHA ABOVEoBELOWoDOTTEDhRBASA ABOVEnBELOW
hDOTTED ZLAMA HORIZONTALuANGULARhHBASA ABOVEnBELOWm-ESASA DOTTEDhESASA ABOVEnBELOWhRWAHA
hFEMININE DOThQUSHSHAYAhRUKKAKHAhTWO VERTICAL DOTS ABOVEzBELOWiHREE DOTS ABOVEsBELOW
hOBLIQUE LINE ABOVEuBELOWhMUSIChBARREKH>74DhLETTER SOGDIAN ZHAINwKHAPHwFE
aARABIC LETTER BEH WITH THREE DOTS HORIZONTALLY BELOWxDOT BELOW AND THREE DOTS ABOVE
xTHREE DOTS POINTING UPWARDS BELOWþ AND TWO DOTS ABOVEyWO DOTS BELOW AND DOT ABOVE
xINVERTED SMALL V BELOWxSMALL VoHAH WITH TWO DOTS ABOVEyHREE DOTS POINTING UPWARDS BELOW
oDAL WITH TWO DOTS VERTICALLY BELOW AND SMALL TAHxINVERTED SMALL V BELOWoREH WITH STROKE
oSEEN WITH FOUR DOTS ABOVEoAIN WITH TWO DOTS ABOVEyHREE DOTS POINTING DOWNWARDS ABOVE
yWO DOTS VERTICALLY ABOVEoFEH WITH TWO DOTS BELOWyHREE DOTS POINTING UPWARDS BELOW
oKEHEH WITH DOT ABOVEzTHREE DOTS ABOVEêPOINTING UPWARDS BELOWoMEEM WITH DOT ABOVEâBELOW
oNOON WITH TWO DOTS BELOWySMALL TAHäVoLAM WITH BARoREH WITH TWO DOTS VERTICALLY ABOVExHAMZA ABOVE
oSEEN WITH TWO DOTS VERTICALLY ABOVEoHAH WITH SMALL ARABIC LETTER TAH BELOWõAND TWO DOTS
oSEEN WITH SMALL ARABIC LETTER TAH AND TWO DOTSoREH WITH SMALL ARABIC LETTER TAH AND TWO DOTS
oHAH WITH SMALL ARABIC LETTER TAH ABOVEoALEF WITH EXTENDED ARABIC-INDIC DIGIT TWO ABOVEûHREE ABOVE
oFARSI YEH WITH EXTENDED ARABIC-INDIC DIGIT TWO ABOVEÿTHREE ABOVEÿFOUR BELOW
oWAW WITH EXTENDED ARABIC-INDIC DIGIT TWO ABOVEúHREE ABOVE
oYEH BARREE WITH EXTENDED ARABIC-INDIC DIGIT TWO ABOVEÿ THREE ABOVE
oHAH WITH EXTENDED ARABIC-INDIC DIGIT FOUR BELOWoSEEN WITH EXTENDED ARABIC-INDIC DIGIT FOUR ABOVE
yINVERTED VoKAF WITH TWO DOTS ABOVEaTHAANA LETTER HAAoSHAVIYANIoNOONUoRAAoBAAoLHAVIYANIoKAAFUoALIFU
oVAAVUoMEEMUoFAAFUoDHAALUoTHAAoLAAMUoGAAFUpNAVIYANIoSEENUoDAVIYANIoZAVIYANIoTAVIYANIoYAAoPAVIYANI
oJAVIYANIoCHAVIYANIoTTAAoHHAAoKHAAoTHAALUoZAAoSHEENUpAADHUoDAADHUoTOoZOoAINUoGHAINUoQAAFUoWAAVU
hABAFILIiABAAFILIhIBIFILIhEEBEEFILIhUBUFILIhOOBOOFILIhEBEFILIiYBEYFILIhOBOFILIiABOAFILIhSUKUN
hLETTER NAA>7C0aNKO DIGIT ZEROkONEkTWOlHREEkFOURlIVEkSIXlEVENkEIGHTkNINEeLETTER AlEElIlElUlOOm
lDAGBASINNAlNlBAlPAlTAlJAlCHAlDAlRAmRAlSAlGBAlFAlKAlLAlNA WOLOSOlMAlNYAmAlHAlWAlYAlNYA WOLOSO
lJONA JAqCHAqRAeCOMBINING SHORT HIGH TONEuLOW TONEuRISING TONEoLONG DESCENDING TONEtHIGH TONE
tLOW TONEtRISING TONEoNASALIZATION MARKoDOUBLE DOT ABOVEeHIGH TONE APOSTROPHEeLOW TONE APOSTROPHE
eSYMBOL OO DENNENlGBAKURUNENeCOMMAeEXCLAMATION MARKeLAJANYALAN>7FDeDANTAYALANfOROME SIGNeTAMAN SIGN
aSAMARITAN LETTER ALAFrBITrGAMANrDALATrIYrBAArZENrITrTITrYUTrKAAFrLABATrMIMrNUNrSINGAATrINrFI
rTSAADIYrQUFrRISHrSHANrTAAFkMARK INr-ALAFpOCCLUSIONpDAGESHlODIFIER LETTER EPENTHETIC YUT
lARK EPENTHETIC YUTkVOWEL SIGN LONG EvEvOVERLONG AAvLONG AAvAAvOVERLONG AvLONG AvA
kMODIFIER LETTER SHORT AkVOWEL SIGN SHORT AvLONG UvUkMODIFIER LETTER IkVOWEL SIGN LONG IvIvOvSUKUN
kMARK NEQUDAA>830kPUNCTUATION NEQUDAAwAFSAAQxNGEDwBAUwATMAAUwSHIYYAALAAkABBREVIATION MARK
kPUNCTUATION MELODIC QITSAwZIQAAwQITSAwZAEFwTURUwARKAANUwSOF MASHFAATwANNAAU>840
aMANDAIC LETTER HALQApABqGqDqHpUSHENNApAZpITpATTqKSArqLqMqNqSpINpAPqSZqQqRqSHqTpDUSHENNApKADpAIN
iAFFRICATION MARKiVOCALIZATION MARKiGEMINATION MARK>85EiPUNCTUATION>860aSYRIAC LETTER MALAYALAM NGA
yJAyNYAyTTAyNNAàNAyBHAyRAyLLAàLAySSA>870aARABIC LETTER ALEF WITH ATTACHED FATHAçTOP RIGHT FATHA
yRIGHT MIDDLE STROKEyLEFT MIDDLE STROKEyATTACHED KASRAçBOTTOM RIGHT KASRAçROUND DOT ABOVE
èIGHT ROUND DOTçLEFT ROUND DOTçROUND DOT BELOWyDOT ABOVEyATTACHED TOP RIGHT FATHA AND DOT ABOVE
yRIGHT MIDDLE STROKE AND DOT ABOVEyATTACHED BOTTOM RIGHT KASRA AND DOT ABOVE
çTOP RIGHT FATHA AND LEFT RINGyRIGHT MIDDLE STROKE AND LEFT RING
yATTACHED BOTTOM RIGHT KASRA AND LEFT RINGçRIGHT HAMZAçLEFT HAMZAhTATWEEL WITH OVERSTRUCK HAMZAåWAW
uTWO DOTS BELOWhLETTER THIN YEHhBASELINE ROUND DOThRAISED ROUND DOT
hLETTER NOON WITH INVERTED SMALL VoHAH WITH INVERTED SMALL V BELOWoTAH WITH DOT BELOW
xTHREE DOTS BELOWoKEHEH WITH TWO DOTS VERTICALLY BELOWhVERTICAL TAIL>890hPOUND MARK ABOVE
iIASTRE MARK ABOVE>898hSMALL HIGH WORD AL-JUZnLOW WORD ISHMAAMxMAALAwTASHEELhMADDA WAAJIB
hSUPERSCRIPT ALEF MOKHASSAShDOUBLED MADDAhHALF MADDA OVER MADDAhLETTER BEH WITH SMALL V BELOW
xHAMZA ABOVEoJEEM WITH TWO DOTS ABOVEoTAH WITH TWO DOTS ABOVE
oFEH WITH DOT BELOW AND THREE DOTS ABOVEoQAF WITH DOT BELOWoLAM WITH DOUBLE BAR
oMEEM WITH THREE DOTS ABOVEoYEH WITH TWO DOTS BELOW AND HAMZA ABOVEðDOT ABOVEoREH WITH LOOP
oWAW WITH DOT WITHINoROHINGYA YEHoLOW ALEFoDAL WITH THREE DOTS BELOWoSAD WITH THREE DOTS BELOW
oGAF WITH INVERTED STROKEoSTRAIGHT WAWoZAIN WITH INVERTED V ABOVEoAIN WITH THREE DOTS BELOW
oKAF WITH DOT BELOWoQAF WITH DOT BELOW AND NO DOTS ABOVEoBEH WITH SMALL MEEM ABOVE
oPEH WITH SMALL MEEM ABOVEoTEH WITH SMALL TEH ABOVEoREH WITH SMALL NOON ABOVE
oYEH WITH TWO DOTS BELOW AND SMALL NOON ABOVEoAFRICAN FEHwQAFwNOONoPEH WITH SMALL VoTEH WITH SMALL V
pTEH WITH SMALL VpCHEH WITH SMALL VoKEHEH WITH SMALL VoGHAIN WITH THREE DOTS ABOVE
oAFRICAN QAF WITH THREE DOTS ABOVEoJEEM WITH THREE DOTS ABOVEéBELOW
oLAM WITH SMALL ARABIC LETTER TAH ABOVEoGRAFhSMALL FARSI YEHnHIGH FARSI YEH
sYEH BARREE WITH TWO DOTS BELOWsWORD SAHsZAHhLARGE ROUND DOT ABOVExBELOWhSUKUN BELOW
hLARGE CIRCLE BELOWnROUND DOT INSIDE CIRCLE BELOWhSMALL LOW WAWnHIGH WORD AR-RUBsSADsAINsQAF
sNOON WITH KASRAnLOW NOON WITH KASRAnHIGH WORD ATH-THALATHAyS-SAJDAyN-NISFxSAKTAxQIFxWAQFA
sFOOTNOTE MARKERsSIGN SAFHAhDISPUTED END OF AYAHhTURNED DAMMA BELOWhCURLY FATHAnDAMMAnKASRAnFATHATAN
nDAMMATANnKASRATANhTONE ONE DOT ABOVEmTWO DOTS ABOVEmLOOP ABOVEmONE DOT BELOWmTWO DOTS BELOW
mLOOP BELOWhOPEN FATHATANmDAMMATANmKASRATANhSMALL HIGH WAWhFATHA WITH RINGsDOT ABOVE
hKASRA WITH DOT BELOWhLEFT ARROWHEAD ABOVEhRIGHT ARROWHEAD ABOVEhLEFT ARROWHEAD BELOW
hRIGHT ARROWHEAD BELOWhDOUBLE RIGHT ARROWHEAD ABOVEé WITH DOThRIGHT ARROWHEAD ABOVE WITH DOT
hDAMMA WITH DOThMARK SIDEWAYS NOON GHUNNAaDEVANAGARI SIGN INVERTED CANDRABINDUqCANDRABINDUqANUSVARA
qVISARGAlLETTER SHORT AsAtAsItIsUtUsVOCALIC RàLsCANDRA EsSHORT EsEsAIsCANDRA OsSHORT OsOsAUsKAtHAsGA
tHAsNGAsCAtHAsJAtHAsNYAsTTAuHAsDDAuHAsNNAsTAtHAsDAtHAsNAtNNAsPAtHAsBAtHAsMAsYAsRAtRAsLAtLAuLAsVAsSHA
tSAtAsHAlVOWEL SIGN OExOElSIGN NUKTAqAVAGRAHAlVOWEL SIGN AAwIxIwUxUwVOCALIC RåRwCANDRA EwSHORT EwE
wAIwCANDRA OwSHORT OwOwAUlSIGN VIRAMAlVOWEL SIGN PRISHTHAMATRA EwAWlOMlSTRESS SIGN UDATTAxANUDATTA
lGRAVE ACCENTlACUTE ACCENTlVOWEL SIGN CANDRA LONG EwUExUElLETTER QAsKHHAsGHHAsZAsDDDHAsRHAsFAsYYA
sVOCALIC RRàLLlVOWEL SIGN VOCALIC LåLlDANDAmOUBLE DANDAmIGIT ZEROrONErTWOsHREErFOURsIVErSIXsEVEN
rEIGHTrNINElABBREVIATION SIGNlSIGN HIGH SPACING DOTlLETTER CANDRA AsOEtOEsAWsUEtUEsMARWARI DDAsZHA
sHEAVY YAsGGAsJJAsGLOTTAL STOPsDDDAsBBAaBENGALI ANJIiSIGN CANDRABINDUnANUSVARAnVISARGA>985iLETTER A
qApIqIpUqUpVOCALIC RxL>98FpEpAI>993pOpAUpKAqHApGAqHApNGApCAqHApJAqHApNYApTTArHApDDArHApNNApTAqHApDA
qHApNA>9AApPAqHApBAqHApMApYApRA>9B2pLA>9B6pSHAqSAqApHA>9BCiSIGN NUKTAnAVAGRAHAiVOWEL SIGN AAtIuItUuU
tVOCALIC RâR>9C7tEtAI>9CBtOtAUiSIGN VIRAMAiLETTER KHANDA TA>9D7iAU LENGTH MARK>9DCiLETTER RRAqHA>9DF
pYYApVOCALIC RRxLLiVOWEL SIGN VOCALIC LâL>9E6iDIGIT ZEROoONEoTWOpHREEoFOURpIVEoSIXpEVENoEIGHToNINE
iLETTER RA WITH MIDDLE DIAGONALxLOWER DIAGONALiRUPEE MARKoSIGNiCURRENCY NUMERATOR ONEáTWOâHREEáFOUR
áONE LESS THAN THE DENOMINATORrDENOMINATOR SIXTEENiISSHARiGANDA MARKiLETTER VEDIC ANUSVARA
iABBREVIATION SIGNiSANDHI MARK>A01aGURMUKHI SIGN ADAK BINDIoBINDIoVISARGA>A05jLETTER ArAqIrIqUrU>A0F
qEEqAI>A13qOOqAUqKArHAqGArHAqNGAqCArHAqJArHAqNYAqTTAsHAqDDAsHAqNNAqTArHAqDArHAqNA>A2AqPArHAqBArHAqMA
qYAqRA>A32qLArLA>A35qVAqSHA>A38rAqHA>A3CjSIGN NUKTA>A3EjVOWEL SIGN AAuIvIuUvU>A47uEEuAI>A4BuOOuAU
jSIGN VIRAMA>A51oUDAAT>A59jLETTER KHHAqGHHAqZAqRRA>A5EqFA>A66jDIGIT ZEROpONEpTWOqHREEpFOURqIVEpSIX
qEVENpEIGHTpNINEjTIPPIjADDAKjIRIjURAjEK ONKARjSIGN YAKASHjABBREVIATION SIGN>A81
cJARATI SIGN CANDRABINDUoANUSVARAoVISARGA>A85jLETTER ArAqIrIqUrUqVOCALIC RyLjVOWEL CANDRA E>A8F
jLETTER EqAIjVOWEL CANDRA O>A93jLETTER OqAUqKArHAqGArHAqNGAqCArHAqJArHAqNYAqTTAsHAqDDAsHAqNNAqTArHA
qDArHAqNA>AAAqPArHAqBArHAqMAqYAqRA>AB2qLArLA>AB5qVAqSHArSArAqHA>ABCjSIGN NUKTAoAVAGRAHA
jVOWEL SIGN AAuIvIuUvUuVOCALIC RãRuCANDRA E>AC7uEuAIuCANDRA O>ACBuOuAUjSIGN VIRAMA>AD0jOM>AE0
jLETTER VOCALIC RRyLLjVOWEL SIGN VOCALIC LãL>AE6jDIGIT ZEROpONEpTWOqHREEpFOURqIVEpSIXqEVENpEIGHT
pNINEjABBREVIATION SIGNjRUPEE SIGN>AF9jLETTER ZHAjSIGN SUKUNpHADDAoMADDAHoTHREE-DOT NUKTA ABOVE
oCIRCLE NUKTA ABOVEoTWO-CIRCLE NUKTA ABOVE>B01aORIYA SIGN CANDRABINDUlANUSVARAlVISARGA>B05gLETTER A
oAnIoInUoUnVOCALIC RvL>B0FnEnAI>B13nOnAUnKAoHAnGAoHAnNGAnCAoHAnJAoHAnNYAnTTApHAnDDApHAnNNAnTAoHAnDA
oHAnNA>B2AnPAoHAnBAoHAnMAnYAnRA>B32nLAoLA>B35nVAnSHAoSAoAnHA>B3CgSIGN NUKTAlAVAGRAHAgVOWEL SIGN AArI
sIrUsUrVOCALIC RàR>B47rErAI>B4BrOrAUgSIGN VIRAMA>B55lOVERLINEgAI LENGTH MARKhU LENGTH MARK>B5C
gLETTER RRAoHA>B5FnYYAnVOCALIC RRvLLgVOWEL SIGN VOCALIC LàL>B66gDIGIT ZEROmONEmTWOnHREEmFOURnIVEmSIX
nEVENmEIGHTmNINEgISSHARgLETTER WAgFRACTION ONE QUARTERtHALFpTHREE QUARTERSpONE SIXTEENTHtEIGHTH
pTHREE SIXTEENTHS>B82aTAMIL SIGN ANUSVARAlVISARGA>B85gLETTER AoAnIoInUoU>B8EnEoEnAI>B92nOoOnAUnKA
>B99nNGAnCA>B9CnJA>B9EnNYAnTTA>BA3nNNAnTA>BA8nNAoNNAnPA>BAEnMAnYAnRAoRAnLAoLApLAnVAnSHAoSAoAnHA>BBE
gVOWEL SIGN AArIsIrUsU>BC6rEsErAI>BCArOsOrAUgSIGN VIRAMA>BD0gOM>BD7gAU LENGTH MARK>BE6gDIGIT ZERO
mONEmTWOnHREEmFOURnIVEmSIXnEVENmEIGHTmNINEgNUMBER TENnONE HUNDREDrTHOUSANDgDAY SIGNgMONTH SIGN
gYEAR SIGNgDEBIT SIGNgCREDIT SIGNgAS ABOVE SIGNgRUPEE SIGNgNUMBER SIGN>C00
bELUGU SIGN COMBINING CANDRABINDU ABOVEnANDRABINDUmANUSVARAmVISARGAmCOMBINING ANUSVARA ABOVE
hLETTER ApAoIpIoUpUoVOCALIC RwL>C0EoEpEoAI>C12oOpOoAUoKApHAoGApHAoNGAoCApHAoJApHAoNYAoTTAqHAoDDAqHA
oNNAoTApHAoDApHAoNA>C2AoPApHAoBApHAoMAoYAoRApRAoLApLAqLAoVAoSHApSApAoHA>C3ChSIGN NUKTAmAVAGRAHA
hVOWEL SIGN AAsItIsUtUsVOCALIC RáR>C46sEtEsAI>C4AsOtOsAUhSIGN VIRAMA>C55hLENGTH MARKhAI LENGTH MARK
>C58hLETTER TSAoDZAoRRRA>C5DoNAKAARA POLLU>C60oVOCALIC RRwLLhVOWEL SIGN VOCALIC LáL>C66hDIGIT ZERO
nONEnTWOoHREEnFOURoIVEnSIXoEVENnEIGHTnNINE>C77hSIGN SIDDHAM
hFRACTION DIGIT ZERO FOR ODD POWERS OF FOURwONE FOR ODD POWERS OF FOURwTWO FOR ODD POWERS OF FOUR
xHREE FOR ODD POWERS OF FOURwONE FOR EVEN POWERS OF FOURwTWO FOR EVEN POWERS OF FOUR
xHREE FOR EVEN POWERS OF FOURhSIGN TUUMUaKANNADA SIGN SPACING CANDRABINDUnCANDRABINDUnANUSVARA
nVISARGAnSIDDHAMiLETTER AqApIqIpUqUpVOCALIC RxL>C8EpEqEpAI>C92pOqOpAUpKAqHApGAqHApNGApCAqHApJAqHA
pNYApTTArHApDDArHApNNApTAqHApDAqHApNA>CAApPAqHApBAqHApMApYApRAqRApLAqLA>CB5pVApSHAqSAqApHA>CBC
iSIGN NUKTAnAVAGRAHAiVOWEL SIGN AAtIuItUuUtVOCALIC RâR>CC6tEuEtAI>CCAtOuOtAUiSIGN VIRAMA>CD5
iLENGTH MARKiAI LENGTH MARK>CDDiLETTER NAKAARA POLLUpFA>CE0pVOCALIC RRxLLiVOWEL SIGN VOCALIC LâL>CE6
iDIGIT ZEROoONEoTWOpHREEoFOURpIVEoSIXpEVENoEIGHToNINE>CF1iSIGN JIHVAMULIYAnUPADHMANIYA>D00
aMALAYALAM SIGN COMBINING ANUSVARA ABOVEqANDRABINDUpANUSVARApVISARGAkLETTER VEDIC ANUSVARArAsArIsIrU
sUrVOCALIC RzL>D0ErEsErAI>D12rOsOrAUrKAsHArGAsHArNGArCAsHArJAsHArNYArTTAtHArDDAtHArNNArTAsHArDAsHA
rNAsNNArPAsHArBAsHArMArYArRAsRArLAsLAtLArVArSHAsSAsArHArTTTAkSIGN VERTICAL BAR VIRAMA
pCIRCULAR VIRAMApAVAGRAHAkVOWEL SIGN AAvIwIvUwUvVOCALIC RäR>D46vEwEvAI>D4AvOwOvAUkSIGN VIRAMA
kLETTER DOT REPHkSIGN PARA>D54kLETTER CHILLU MyYyLLLkAU LENGTH MARK
kFRACTION ONE ONE-HUNDRED-AND-SIXTIETHxFORTIETHtTHREE EIGHTIETHStONE TWENTIETHyENTHtTHREE TWENTIETHS
tONE FIFTHkLETTER ARCHAIC IIrVOCALIC RRzLLkVOWEL SIGN VOCALIC LäL>D66kDIGIT ZEROqONEqTWOrHREEqFOUR
rIVEqSIXrEVENqEIGHTqNINEkNUMBER TENrONE HUNDREDvTHOUSANDkFRACTION ONE QUARTERxHALFtTHREE QUARTERS
tONE SIXTEENTHxEIGHTHtTHREE SIXTEENTHSkDATE MARKkLETTER CHILLU NNzyRRyLzLyK>D81
aSINHALA SIGN CANDRABINDUnANUSVARAYAnVISARGAYA>D85iLETTER AYANNAqAYANNAqEYANNArEYANNApIYANNAqIYANNA
pUYANNAqUYANNApIRUYANNAsUYANNAqLUYANNAsUYANNApEYANNAqEYANNApAIYANNApOYANNAqOYANNApAUYANNA>D9A
qLPAPRAANA KAYANNApMAHAAPRAANA KAYANNApALPAPRAANA GAYANNApMAHAAPRAANA GAYANNApKANTAJA NAASIKYAYA
pSANYAKA GAYANNApALPAPRAANA CAYANNApMAHAAPRAANA CAYANNApALPAPRAANA JAYANNApMAHAAPRAANA JAYANNA
pTAALUJA NAASIKYAYAxSANYOOGA NAAKSIKYAYApSANYAKA JAYANNApALPAPRAANA TTAYANNApMAHAAPRAANA TTAYANNA
pALPAPRAANA DDAYANNApMAHAAPRAANA DDAYANNAqUURDHAJA NAYANNApSANYAKA DDAYANNApALPAPRAANA TAYANNA
pMAHAAPRAANA TAYANNApALPAPRAANA DAYANNApMAHAAPRAANA DAYANNApDANTAJA NAYANNA>DB3pSANYAKA DAYANNA
pALPAPRAANA PAYANNApMAHAAPRAANA PAYANNApALPAPRAANA BAYANNApMAHAAPRAANA BAYANNArYANNApAMBA BAYANNA
pYAYANNApRAYANNA>DBDpDANTAJA LAYANNA>DC0pVAYANNApTAALUJA SAYANNApMUURDHAJA SAYANNApDANTAJA SAYANNA
pHAYANNApMUURDHAJA LAYANNApFAYANNA>DCAiSIGN AL-LAKUNA>DCFiVOWEL SIGN AELA-PILLAtKETTI AEDA-PILLA
tDIGA AEDA-PILLAtKETTI IS-PILLAtDIGA IS-PILLAtKETTI PAA-PILLA>DD6tDIGA PAA-PILLA>DD8tGAETTA-PILLA
tKOMBUVAtDIGA KOMBUVAtKOMBU DEKAyVA HAA AELA-PILLAåDIGA AELA-PILLAåGAYANUKITTAtGAYANUKITTA>DE6
iLITH DIGIT ZEROtONEtTWOuHREEtFOURuIVEtSIXuEVENtEIGHTtNINE>DF2iVOWEL SIGN DIGA GAETTA-PILLA
àYANUKITTAiPUNCTUATION KUNDDALIYA>E01aTHAI CHARACTER KO KAIqHO KHAIvUATvWAIvONtRAKHANGpNGO NGU
pCHO CHANvINGvANGpSO SOpCHO CHOEpYO YINGpDO CHADApTO PATAKqHO THANtNANGMONTHOtPHUTHAOpNO NENpDO DEK
pTO TAOqHO THUNGvAHANvONGpNO NUpBO BAIMAIpPO PLAqHO PHUNGpFO FApPHO PHANpFO FANpPHO SAMPHAOpMO MA
pYO YAKpRO RUAqUpLO LINGqUpWO WAENpSO SALAsRUSIsSUApHO HIPpLO CHULApO ANGpHO NOKHUKpPAIYANNOIpSARA A
pMAI HAN-AKATpSARA AAvMuIvIuUEwEvvUpPHINTHU>E3FgURRENCY SYMBOL BAHTgHARACTER SARA EuAEuOuAI MAIMUAN
áALAIpLAKKHANGYAOpMAIYAMOKsTAIKHUs EKtTHOuRItCHATTAWApTHANTHAKHATpNIKHAHITpYAMAKKANpFONGMAN
fDIGIT ZEROlONElTWOmHREElFOURmIVElSIXmEVENlEIGHTlNINEfCHARACTER ANGKHANKHUpKHOMUT>E81aLAO LETTER KO
mHO SUNG>E84pTAM>E86lPALI GHAlNGOlCOlPALI CHAlSO TAM>E8ClPALI JHAlNYOlPALI NYAqTTAsHAqDDAsHAqNNAlDO
lTOmHO SUNGpTAMlPALI DHAlNOlBOlPOmHO SUNGlFO TAMlPHO TAMlFO SUNGlPALI BHAlMOlYOlLO LING>EA5pOOT>EA7
lWOlSANSKRIT SHAvSAmO SUNGlHO SUNGlPALI LLAlOlHO TAMeELLIPSISeVOWEL SIGN ApMAI KANpAAqMpIqIpYqYpUqU
eSIGN PALI VIRAMAeVOWEL SIGN MAI KONeSEMIVOWEL SIGN LOtNYO>EC0eVOWEL SIGN EqIpOpAYqI>EC6eKO LA>EC8
eTONE MAI EKnTHOoInCATAWAeCANCELLATION MARKeNIGGAHITA>ED0eDIGIT ZEROkONEkTWOlHREEkFOURlIVEkSIXlEVEN
kEIGHTkNINE>EDCeHO NOhMOeLETTER KHMU GOqNYO>F00aTIBETAN SYLLABLE OMiMARK GTER YIG MGO TRUNCATED A
à-UM RNAM BCAD MAäGTER TSHEG MAnINITIAL YIG MGO MDUN MAnCLOSING YIG MGO SGAB MA
oARET YIG MGO PHUR SHAD MAnYIG MGO TSHEG SHAD MAnSBRUL SHADnBSKUR YIG MGOoKA- SHOG YIG MGO
nINTERSYLLABIC TSHEGnDELIMITER TSHEG BSTARnSHADnNYIS SHADnTSHEG SHADnNYIS TSHEG SHAD
nRIN CHEN SPUNGS SHADoGYA GRAM SHADnCARET -DZUD RTAGS ME LONG CANnGTER TSHEG
iLOGOTYPE SIGN CHAD RTAGSwLHAG RTAGSiASTROLOGICAL SIGN SGRA GCAN -CHAR RTAGSà-KHYUD PAàSDONG TSHUGS
iSIGN RDEL DKAR GCIGyNYISySUMsNAG GCIGxNYISsDKAR RDEL NAGiDIGIT ZEROoONEoTWOpHREEoFOURpIVEoSIXpEVEN
oEIGHToNINEoHALF ONEtTWOuHREEtFOURuIVEtSIXuEVENtEIGHTtNINEtZEROiMARK BSDUS RTAGSnNGAS BZUNG NYI ZLA
nCARET -DZUD RTAGS BZHI MIG CANnNGAS BZUNG SGOR RTAGSnCHE MGOnTSA -PHRUnGUG RTAGS GYONzAS
nANG KHANG GYONzASiSIGN YAR TSHESnMAR TSHESiLETTER KAqHApGAqHApNGApCAqHApJA>F49pNYApTTArHApDDArHA
pNNApTAqHApDAqHApNApPAqHApBAqHApMApTSArHApDZArHApWApZHAqAp-ApYApRApLApSHAqSAqApHApApKSSA
pFIXED-FORM RApKKApRRA>F71iVOWEL SIGN AAtIuItUuUtVOCALIC RâRáLâLtEuEtOuOiSIGN RJES SU NGA RO
oNAM BCADiVOWEL SIGN REVERSED IãIiSIGN NYI ZLA NAA DAnSNA LDANiMARK HALANTAnPALUTAiSIGN LCI RTAGS
nYANG RTAGSnLCE TSA CANnMCHU CANnGRU CAN RGYINGSrMED RGYINGSnINVERTED MCHU CAN
jUBJOINED SIGN LCE TSA CANxMCHU CANxINVERTED MCHU CANsLETTER KAàHAzGAàHAzNGAzCAàHAzJA>F99zNYAzTTAáHA
zDDAáHAzNNAzTAàHAzDAàHAzNAzPAàHAzBAàHAzMAzTSAáHAzDZAáHAzWAzZHAàAz-AzYAzRAzLAzSHAàSAàAzHAzAzKSSA
zFIXED-FORM WAêYAêRA>FBEiKU RU KHAr BZHI MIG CANiCANTILLATION SIGN HEAVY BEATàLIGHT BEATàCANG TE-U
àSBUB -CHALiSYMBOL DRIL BUpRDO RJEpPADMA GDANpRDO RJE RGYA GRAMpPHUR PApNOR BUv NYIS -KHYIL
wGSUM -KHYILwBZHI -KHYIL>FCEjIGN RDEL NAG RDEL DKARwGSUMiMARK BSKA- SHOG GI MGO RGYAN
nMNYAM YIG GI MGO RGYANnNYIS TSHEGnINITIAL BRDA RNYING YIG MGO MDUN MA
nCLOSING BRDA RNYING YIG MGO SGAB MAaRIGHT-FACING SVASTI SIGNaLEFT-FACING SVASTI SIGN
aRIGHT-FACING SVASTI SIGN WITH DOTSaLEFT-FACING SVASTI SIGN WITH DOTS
aTIBETAN MARK LEADING MCHAN RTAGSnTRAILING MCHAN RTAGS
"

/-! ### Further scripts

The names of characters of further scripts, most of which write syllables, from Burmese and Georgian to
the scripts of Indonesia, and of Latin and Greek letters with marks.
-/

def syllabaries : String := "
>1000aMYANMAR LETTER KAqHApGAqHApNGApCAqHApJAqHApNYAqNYApTTArHApDDArHApNNApTAqHApDAqHApNApPAqHApBA
qHApMApYApRApLApWApSApHApLLApApSHAN ApIqIpUqUpEpMON EpOpAUiVOWEL SIGN TALL AAtAAtIuItUuUtEtAItMON II
xOtE ABOVEiSIGN ANUSVARAnDOT BELOWnVISARGApRAMAnASATiCONSONANT SIGN MEDIAL YAäRAäWAäHA
iLETTER GREAT SAiDIGIT ZEROoONEoTWOpHREEoFOURpIVEoSIXpEVENoEIGHToNINEiSIGN LITTLE SECTIONnSECTION
jYMBOL LOCATIVEpCOMPLETEDpAFOREMENTIONEDpGENITIVEiLETTER SHAqSApVOCALIC RyRxLyLiVOWEL SIGN VOCALIC R
âRáLâLiLETTER MON NGAtJHAtBBAvEiCONSONANT SIGN MON MEDIAL NAèMAèLAiLETTER SGAW KAREN SHA
iVOWEL SIGN SGAW KAREN EUiTONE MARK SGAW KAREN HATHIãKE PHOiLETTER WESTERN PWO KAREN THAçPWA
iVOWEL SIGN WESTERN PWO KAREN EUëUEiSIGN WESTERN PWO KAREN TONE-1ê2ê3ê4ê5
iLETTER EASTERN PWO KAREN NNAçYWAçGHWAiVOWEL SIGN GEBA KAREN ItKAYAH OEzUzEEiLETTER SHAN KAvHAuGAuCA
uZAuNYAuDAuNAuPHAuFAuBAuTHAuHAiCONSONANT SIGN SHAN MEDIAL WAiVOWEL SIGN SHAN AAyEz ABOVEyFINAL Y
iSIGN SHAN TONE-2x3x5x6sCOUNCIL TONE-2å3àEMPHATIC TONEiLETTER RUMAI PALAUNG FA
iSIGN RUMAI PALAUNG TONE-5jHAN DIGIT ZEROtONEtTWOuHREEtFOURuIVEtSIXuEVENtEIGHTtNINE
jIGN KHAMTI TONE-1z3iVOWEL SIGN AITON AàIiSYMBOL SHAN ONEuEXCLAMATIONaGEORGIAN CAPITAL LETTER ANyBAN
yGANyDONyENyVINyZENyTANyINyKANyLASyMANyNARyONyPARyZHARyRAEySANyTARyUNyPHARyKHARyGHANyQARySHINyCHIN
zANyJILyCILzHARyXANyJHANyHAEzEzIEyWEyHARzOE>10C7yYN>10CDyAEN>10D0jLETTER ANqBANqGANqDONqENqVINqZEN
qTANqINqKANqLASqMANqNARqONqPARqZHARqRAEqSANqTARqUNqPHARqKHARqGHANqQARqSHINqCHINrANqJILqCILrHARqXAN
qJHANqHAErErIEqWEqHARrOEqFIqYNqELIFIqTURNED GANqAINjPARAGRAPH SEPARATORaMODIFIER LETTER GEORGIAN NAR
aGEORGIAN LETTER AENqHARD SIGNqLABIAL SIGNaHANGUL CHOSEONG KIYEOKqSSANGKIYEOKqNIEUNqTIKEUT
qSSANGTIKEUTqRIEULqMIEUMqPIEUPqSSANGPIEUPrIOSrSANGSIOSqIEUNGqCIEUCqSSANGCIEUCqCHIEUCHqKHIEUKH
qTHIEUTHqPHIEUPHqHIEUHqNIEUN-KIYEOKqSSANGNIEUNqNIEUN-TIKEUTwPIEUPqTIKEUT-KIYEOKqRIEUL-NIEUN
qSSANGRIEULqRIEUL-HIEUHqKAPYEOUNRIEULqMIEUM-PIEUPqKAPYEOUNMIEUMqPIEUP-KIYEOKwNIEUNwTIKEUTwSIOS
à-KIYEOKáTIKEUTáPIEUPxSANGSIOSxIOS-CIEUCwCIEUCxHIEUCHwTHIEUTHwPHIEUPHqKAPYEOUNPIEUPySSANGPIEUP
qSIOS-KIYEOKvNIEUNvTIKEUTvRIEULvMIEUMvPIEUPà-KIYEOKvSSANGSIOSvIEUNGvCIEUCwHIEUCHvKHIEUKHvTHIEUTH
vPHIEUPHvHIEUHqCHITUEUMSIOSzSANGSIOSrEONGCHIEUMSIOSâSANGSIOSqPANSIOSqIEUNG-KIYEOKwTIKEUTwMIEUMwPIEUP
wSIOSwPANSIOSqSSANGIEUNGqIEUNG-CIEUCxHIEUCHwTHIEUTHwPHIEUPHqYESIEUNGqCIEUC-IEUNGrHITUEUMCIEUC
ySSANGCIEUCrEONGCHIEUMCIEUCáSSANGCIEUCrHIEUCH-KHIEUKHyHIEUHtTUEUMCHIEUCHrEONGCHIEUMCHIEUCH
qPHIEUPH-PIEUPqKAPYEOUNPHIEUPHqSSANGHIEUHqYEORINHIEUHqKIYEOK-TIKEUTqNIEUN-SIOSwCIEUCwHIEUH
qTIKEUT-RIEULqFILLERhJUNGSEONG FILLERrAsErYAtErEOsrYEOtrOrWAtErOErYOrUrWEOtsIrYUrEUrYIrIrA-OtUrYA-O
uYOrEO-OuUuEUrYEO-OvUrO-EOutYEtOtUrYO-YAwEvEOuOuIrU-AuEtEO-EUtYEtUrYU-AuEOvuYEOwuUuIrEU-UuEUrYI-U
rI-AtYAtOtUtEUtARAEArARAEAw-EOxUxIrSSANGARAEArA-EUrYA-UsEO-YArO-YAvEiONGSEONG KIYEOKrSSANGKIYEOK
rKIYEOK-SIOSrNIEUNw-CIEUCxHIEUHrTIKEUTrRIEULw-KIYEOKxMIEUMxPIEUPxSIOSxTHIEUTHxPHIEUPHxHIEUHrMIEUM
rPIEUPw-SIOSrSIOSsSANGSIOSrIEUNGrCIEUCsHIEUCHrKHIEUKHrTHIEUTHrPHIEUPHrHIEUHrKIYEOK-RIEULySIOS-KIYEOK
rNIEUN-KIYEOKxTIKEUTxSIOSxPANSIOSxTHIEUTHrTIKEUT-KIYEOKyRIEULrRIEUL-KIYEOK-SIOSxNIEUNxTIKEUTã-HIEUH
rSSANGRIEULrRIEUL-MIEUM-KIYEOKãSIOSxPIEUP-SIOSãHIEUHxKAPYEOUNPIEUPxSSANGSIOSxPANSIOSxKHIEUKH
xYEORINHIEUHrMIEUM-KIYEOKxRIEULxPIEUPxSIOSySANGSIOSxPANSIOSxCHIEUCHxHIEUHrKAPYEOUNMIEUMrPIEUP-RIEUL
xPHIEUPHxHIEUHrKAPYEOUNPIEUPrSIOS-KIYEOKwTIKEUTwRIEULwPIEUPrPANSIOSrIEUNG-KIYEOKxSSANGKIYEOK
rSSANGIEUNGrIEUNG-KHIEUKHrYESIEUNGz-SIOSàPANSIOSrPHIEUPH-PIEUPrKAPYEOUNPHIEUPHrHIEUH-NIEUNxRIEUL
xMIEUMxPIEUPrYEORINHIEUHrKIYEOK-NIEUNyPIEUPyCHIEUCHyKHIEUKHyHIEUHrSSANGNIEUNaETHIOPIC SYLLABLE HAtU
tItAAtEEutOuAsLAtUtItAAtEEutOtWAsHHAuUuIuAAuEEvuOuWAsMAtUtItAAtEEutOtWAsSZAuUuIuAAuEEvuOuWAsRAtUtI
tAAtEEutOtWAsSAtUtItAAtEEutOtWAtHAuUuIuAAuEEvuOuWAsQAtUtItAAtEEutOuAtWA>124AuIuAAuEEv>1250tHAuUuIuAA
uEEvuO>1258uWA>125AvIvAAvEEw>1260sBAtUtItAAtEEutOtWAsVAtUtItAAtEEutOtWAsTAtUtItAAtEEutOtWAsCAtUtItAA
tEEutOtWAsXAtUtItAAtEEutOuAtWA>128AuIuAAuEEv>1290sNAtUtItAAtEEutOtWAtYAuUuIuAAuEEvuOuWAsGLOTTAL AàU
àIàAAàEEáàOàWAsKAtUtItAAtEEutOuAtWA>12B2uIuAAuEEv>12B8tXAuUuIuAAuEEvuO>12C0uWA>12C2vIvAAvEEw>12C8sWA
tUtItAAtEEutOuAsPHARYNGEAL AãUãIãAAãEEäãO>12D8sZAtUtItAAtEEutOtWAtHAuUuIuAAuEEvuOuWAsYAtUtItAAtEEutO
uAsDAtUtItAAtEEutOtWAtDAuUuIuAAuEEvuOuWAsJAtUtItAAtEEutOtWAsGAtUtItAAtEEutOuAtWA>1312uIuAAuEEv>1318
tGAuUuIuAAuEEvuOuWAAsTHAuUuIuAAuEEvuOuWAsCHAuUuIuAAuEEvuOuWAsPHAuUuIuAAuEEvuOuWAsTSAuUuIuAAuEEvuOuWA
tZAuUuIuAAuEEvuOvAsFAtUtItAAtEEutOtWAsPAtUtItAAtEEutOtWAsRYAsMYAsFYA>135D
jCOMBINING GEMINATION AND VOWEL LENGTH MARKtVOWEL LENGTH MARKtGEMINATION MARKjSECTION MARKjWORDSPACE
jFULL STOPjCOMMAjSEMICOLONjCOLONjPREFACE COLONjQUESTION MARKjPARAGRAPH SEPARATORjDIGIT ONEpTWOqHREE
pFOURqIVEpSIXqEVENpEIGHTpNINEjNUMBER TENrWENTYrHIRTYqFORTYrIFTYqSIXTYrEVENTYqEIGHTYqNINETYqHUNDRED
qTEN THOUSAND>1380jSYLLABLE SEBATBEIT MWAsMWIuEEvsSEBATBEIT BWAsBWIuEEvsSEBATBEIT FWAsFWIuEEv
sSEBATBEIT PWAsPWIuEEvjTONAL MARK YIZETuDERETuRIKRIKuSHORT RIKRIKuDIFATuKENATuCHIRETuHIDET
uDERET-HIDETuKURT>13A0aCHEROKEE LETTER AqEqIqOqUqVqGAqKAqGErIrOrUrVqHArErIrOrUrVqLArErIrOrUrVqMArErI
rOrUqNAqHNAqNAHrErIrOrUrVqQUAsEsIsOsUsVqSArrErIrOrUrVqDAqTAqDEqTEqDIqTIqDOrUrVrLAqTLAsEsIsOsUsVrSAsE
sIsOsUsVqWArErIrOrUrVqYArErIrOrUrVqMV>13F8jSMALL LETTER YExIxOxUxVwMV>1400bANADIAN SYLLABICS HYPHEN
tEtAAItIuItOuOtY-CREE OOtCARRIER EEáItAuAtWEvST-CREE WEuIuEST-CREE WIuIIuEST-CREE WIIuOuEST-CREE WO
uOOuEST-CREE WOOtNASKAPI WOOtWAuEST-CREE WAuAAuEST-CREE WAAtNASKAPI WAAtAItY-CREE WtGLOTTAL STOP
tFINAL ACUTEzGRAVEzBOTTOM HALF RINGzTOP HALF RINGzRIGHT HALF RINGáNGzDOUBLE ACUTE
æSHORT VERTICAL STROKESzMIDDLE DOTzSHORT HORIZONTAL STROKEzPLUSzDOWN TACKtENtINtONtANtPEuAAIuIvIuOvO
tY-CREE POOtCARRIER HEEâItPAvAuWEtWEST-CREE PWEtPWItWEST-CREE PWItPWIItWEST-CREE PWIItPWO
tWEST-CREE PWOtPWOOtWEST-CREE PWOOtPWAtWEST-CREE PWAtPWAAtWEST-CREE PWAAtY-CREE PWAAtPtWEST-CREE P
tCARRIER HtTEuAAIuIvIuOvOtY-CREE TOOtCARRIER DEEâItTAvAuWEtWEST-CREE TWEtTWItWEST-CREE TWItTWII
tWEST-CREE TWIItTWOtWEST-CREE TWOtTWOOtWEST-CREE TWOOtTWAtWEST-CREE TWAtTWAAtWEST-CREE TWAA
tNASKAPI TWAAtTuTEvIvOvAtKEuAAIuIvIuOvOtY-CREE KOOtKAvAuWEtWEST-CREE KWEtKWItWEST-CREE KWItKWII
tWEST-CREE KWIItKWOtWEST-CREE KWOtKWOOtWEST-CREE KWOOtKWAtWEST-CREE KWAtKWAAtWEST-CREE KWAA
tNASKAPI KWAAtKuWtSOUTH-SLAVEY KEHçIHçOHçAHtCEuAAIuIvIuOvOtY-CREE COOtCAvAuWEtWEST-CREE CWEtCWI
tWEST-CREE CWItCWIItWEST-CREE CWIItCWOtWEST-CREE CWOtCWOOtWEST-CREE CWOOtCWAtWEST-CREE CWAtCWAA
tWEST-CREE CWAAtNASKAPI CWAAtCtSAYISI THtMEuAAIuIvIuOvOtY-CREE MOOtMAvAuWEtWEST-CREE MWEtMWI
tWEST-CREE MWItMWIItWEST-CREE MWIItMWOtWEST-CREE MWOtMWOOtWEST-CREE MWOOtMWAtWEST-CREE MWAtMWAA
tWEST-CREE MWAAtNASKAPI MWAAtMtWEST-CREE MtMHtATHAPASCAN MtSAYISI MtNEuAAIuIvIuOvOtY-CREE NOOtNAvA
uWEtWEST-CREE NWEtNWAtWEST-CREE NWAtNWAAtWEST-CREE NWAAtNASKAPI NWAAutCARRIER NGtNHtLEuAAIuIvIuOvO
tY-CREE LOOtLAvAuWEtWEST-CREE LWEtLWItWEST-CREE LWItLWIItWEST-CREE LWIItLWOtWEST-CREE LWOtLWOO
tWEST-CREE LWOOtLWAtWEST-CREE LWAtLWAAtWEST-CREE LWAAtLtWEST-CREE LtMEDIAL LtSEuAAIuIvIuOvO
tY-CREE SOOtSAvAuWEtWEST-CREE SWEtSWItWEST-CREE SWItSWIItWEST-CREE SWIItSWOtWEST-CREE SWOtSWOO
tWEST-CREE SWOOtSWAtWEST-CREE SWAtSWAAtWEST-CREE SWAAtNASKAPI SWAAtStATHAPASCAN StSWtBLACKFOOT S
tMOOSE-CREE SKtNASKAPI SKWâ-WâPWAâTWAâKWAâCWAtSHEvIwIvOwOvAwAvWEtWEST-CREE SHWEtSHWItWEST-CREE SHWI
tSHWIItWEST-CREE SHWIItSHWOtWEST-CREE SHWOtSHWOOtWEST-CREE SHWOOtSHWAtWEST-CREE SHWAtSHWAA
tWEST-CREE SHWAAtSHtYEuAAIuIvIuOvOu-CREE YOOuAvAuWEtWEST-CREE YWEtYWItWEST-CREE YWItYWII
tWEST-CREE YWIItYWOtWEST-CREE YWOtYWOOtWEST-CREE YWOOtYWAtWEST-CREE YWAtYWAAtWEST-CREE YWAA
tNASKAPI YWAAtYtBIBLE-CREE YtWEST-CREE YtSAYISI YItREu-CREE REtWEST-CREE LEtRAAIuIvIuOvO
tWEST-CREE LOtRAvAtWEST-CREE LAtRWAAtWEST-CREE RWAAtRtWEST-CREE RtMEDIAL RtFEuAAIuIvIuOvOuAvAuWAA
tWEST-CREE FWAAtFtTHEtN-CREE THEtTHItN-CREE THItTHIItN-CREE THIItTHOwOvAwAvWAAtWEST-CREE THWAAtTH
uTHEwIwOwAwuYEvIvOvAtNUNAVIK HEâIãIâOãOâAãAâyUT HtHKtQAAIuIvIuOvOuAvAutTLHEwIwOwAtWEST-CREE REäIäOäA
tNGAAIvIwIvOwOvAwAvuNGtSAYISI SHEâIâOâAtWOODS-CREE THEæIæOæAætLHIwIvOwOvAwAvtTH-CREE THEãIäIãOäOãAäA
ãtAIVILIK BtBLACKFOOT EãIãOãAãWEäIäOäAãNEäIäOäAãKEäIäOäAtSAYISI HEáIáOáAtCARRIER GHUãOãEäEãIãAáRUâO
âEãEâIâAáWUâOâEãEâIâAáHWUãOãEäEãIãAáTHUãOãEäEãIãAâTUãOãEäEãIãAáPUâOâEãEâIâAâáGUâOâEãEâIâAáKHUãOãEäE
ãIãAâKUãOãEäEãIãAãáNUâOâEãEâIâAáMUâOâEãEâIâAáYUâOâEãEâIâAáJUtSAYISI JUtCARRIER JOâEãEâItSAYISI JI
tCARRIER JAâJUãOãEäEãIãAáLUâOâEãEâIâAáDLUãOãEäEãIãAáLHUãOãEäEãIãAáTLHUäOäEåEäIäAãUãOãEäEãIãAáZUâOâE
ãEâIâAâáINITIAL ZáDZUãOãEäEãIãAáSUâOâEãEâIâAâHUãOãEäEãIãAãáTSUãOãEäEãIãAáCHUãOãEäEãIãAáTTSUäOäEåEäI
äAuHI SIGNtFULL STOPtQAItNGAIuNGIxIwOxOwAxAtWOODS-CREE THWEEçIèIçOèOçAèAäFINAL THtBLACKFOOT W
aOGHAM SPACE MARKgLETTER BEITHnLUISnFEARNnSAILnNIONnUATHnDAIRnTINNEnCOLLoEIRTnMUINnGORTnNGEADAL
nSTRAIFnRUISnAILMnONNnURnEADHADHnIODHADHnEABHADHnORnUILLEANNnIFINnEAMHANCHOLLnPEITHgFEATHER MARK
gREVERSED FEATHER MARK>16A0aRUNIC LETTER FEHU FEOH FE FnVnURUZ UR UnYRonWnTHURISAZ THURS THORNnETH
nANSUZ AnOS OnAC AoESCnLONG-BRANCH-OSS OnSHORT-TWIG-OSS OnOoEoNnRAIDO RAD REID RnKAUNAnCENnKAUN KnG
nENGnGEBO GYFU GoARnWUNJO WYNN WnHAGLAZ HpEGL HnLONG-BRANCH-HAGALL HnSHORT-TWIG-HAGALL H
nNAUDIZ NYD NAUD NnSHORT-TWIG-NAUD NnDOTTED-NnISAZ IS ISS InEnJERAN JnGERnLONG-BRANCH-AR AE
nSHORT-TWIG-AR AnIWAZ EOHnPERTHO PEORTH PnALGIZ EOLHXnSOWILO SoIGEL LONG-BRANCH-SOL S
oHORT-TWIG-SOL SnCnZnTIWAZ TIR TYR TnSHORT-TWIG-TYR TnDnBERKANAN BEORC BJARKAN B
nSHORT-TWIG-BJARKAN BnDOTTED-PnOPEN-PnEHWAZ EH EnMANNAZ MAN MnLONG-BRANCH-MADR MnSHORT-TWIG-MADR M
nLAUKAZ LAGU LOGR LnDOTTED-LnINGWAZqnDAGAZ DAEG DnOTHALAN ETHEL OnEARnIORnCWEORTHoALCoEALCnSTAN
nLONG-BRANCH-YRnSHORT-TWIG-YRnICELANDIC-YRnQnXgSINGLE PUNCTUATIONgMULTIPLE PUNCTUATION
gCROSS PUNCTUATIONgARLAUG SYMBOLgTVIMADUR SYMBOLgBELGTHOR SYMBOLgLETTER KnSHnOOnFRANKS CASKET OSáIS
áEHáACâESC>1700aTAGALOG LETTER ApIpUpKApGApNGApTApDApNApPApBApMApYApRApLApWApSApHAiVOWEL SIGN ItU
iSIGN VIRAMAnPAMUDPOD>171FiLETTER ARCHAIC RAaHANUNOO LETTER ApIpUpKApGApNGApTApDApNApPApBApMApYApRA
pLApWApSApHAiVOWEL SIGN ItUiSIGN PAMUDPODaPHILIPPINE SINGLE PUNCTUATIONlDOUBLE PUNCTUATION>1740
aBUHID LETTER AnInUnKAnGAnNGAnTAnDAnNAnPAnBAnMAnYAnRAnLAnWAnSAnHAgVOWEL SIGN IrU>1760
aTAGBANWA LETTER AqIqUqKAqGAqNGAqTAqDAqNAqPAqBAqMAqYA>176EqLAqWAqSA>1772jVOWEL SIGN IuU>1780
aKHMER LETTER KAoHAoOoHOnNGOnCAoHAoOoHOnNYOnDAnTTHAnDOnTTHOnNNOnTAoHAoOoHOnNOnBAnPHAoOoHOnMOnYOnRO
nLOnVOnSHAoSOoAnHAnLAnQAgINDEPENDENT VOWEL QAQàAzIàIzUàKàUáVyRYàYyLYàYyQEzAIzOO TYPE ONEçTWOzAU
gVOWEL INHERENT AQwAmSIGN AArIsIrYsYrUsUsArOErYArIErErAEsIrOOrAUgSIGN NIKAHITlREAHMUKlYUUKALEAPINTU
lMUUSIKATOANlTRIISAPlBANTOClROBATlTOANDAKHIATlKAKABATlAHSDAlSAMYOK SANNYAlVIRIAMlCOENGlBATHAMASAT
lKHANlBARIYOOSANlCAMNUC PII KUUHlLEK TOOlBEYYALlPHNAEK MUANlKOOMUUTgCURRENCY SYMBOL RIEL
gSIGN AVAKRAHASANYAmTTHACAN>17E0gDIGIT ZEROmONEmTWOnHREEmFOURnIVEmSIXnEVENmEIGHTmNINE>17F0
gSYMBOL LEK ATTAK SONxMUOYxPIIxBEIyUONxPRAMá-MUOYâPIIâBEIãUON>1800aMONGOLIAN BIRGAkELLIPSISkCOMMA
kFULL STOPkCOLONkFOUR DOTSkTODO SOFT HYPHENkSIBE SYLLABLE BOUNDARY MARKERkMANCHU COMMArFULL STOP
kNIRUGUkFREE VARIATION SELECTOR ONEèTWOéHREEkVOWEL SEPARATORkFREE VARIATION SELECTOR FOURkDIGIT ZERO
qONEqTWOrHREEqFOURrIVEqSIXrEVENqEIGHTqNINE>1820kLETTER ArErIrOrUrOErUErEErNArANGrBArPArQArGArMArLA
rSAsHArTArDArCHArJArYArRArWArFArKAsHArTSArZArHAArZRArLHArZHIrCHIrTODO LONG VOWEL SIGNwEwIwOwUwOEwUE
wANGwBAwPAwQAwGAwMAwTAwDAwCHAwJAwTSAwYAwWAwKAwGAAwHAAwJIAwNIAwDZArSIBE EwIxYwUExwANGwKAwGAwHAwPAwSHA
wTAwDAwJAwFAwGAAwHAAwTSAwZAwRAAwCHAwZHArMANCHU IyKAyRAyFAyZHArCHA WITH TWO DOTS>1880
rALI GALI ANUSVARA ONEàVISARGA ONEàDAMARUàUBADAMAàINVERTED UBADAMAàBALUDAàTHREE BALUDAàAàIàKAàNGAàCA
àTTAâHAàDDAàNNAàTAàDAàPAáHAàSSAàZHAáAàAHrTODO ALI GALI TAåZHArMANCHU ALI GALI GHAçNGAçCAçJHAçTTA
çDDHAçTAçDHAçSSAçCYAçZHAèArALI GALI HALF UåYArMANCHU ALI GALI BHArALI GALI DAGALGA
rMANCHU ALI GALI LHA>18B0aCANADIAN SYLLABICS OYtAYuAYtWAYtPOYuAYuWOYtTAYtKAYuWAYtMAYtNOYuAYtLAYtSOY
uAYuHOYvAYvWOYtYOYuAYtRAYtNWItOJIBWAY NWItNWIItOJIBWAY NWIItNWOtOJIBWAY NWOtNWOOtOJIBWAY NWOOtRWEEvI
wIvOwOvAtOJIBWAY PáTáKáCáMáNáSâHtEASTERN WtWESTERN WtFINAL SMALL RINGzRAISED DOTtR-CREE RWE
tWEST-CREE LOOäAAtTHWEwAuTHWEwOOwAAuLHWEwOOtSAYISI SHWEâOOàHOOtCARRIER GWUáDENE GEEáGAAâWA
tSAYISI JUUtCARRIER JWAtBEAVER DENE LåRtCARRIER DENTAL S>1900aLIMBU VOWEL-CARRIER LETTERgLETTER KA
oHAnGAoHAnNGAnCAoHAnJAoHAnYANnTAoHAnDAoHAnNAnPAoHAnBAoHAnMAnYAnRAnLAnWAnSHAoSAoAnHAnGYANnTRA>1920
gVOWEL SIGN ArIrUrEErAIrOOrAUrErOgSUBJOINED LETTER YAxRAxWA>1930hMALL LETTER KAtNGAtANUSVARAtTAtNA
tPAtMAtRAtLAhIGN MUKPHRENGlKEMPHRENGlSA-I>1940lLOO>1944gEXCLAMATION MARKgQUESTION MARKgDIGIT ZERO
mONEmTWOnHREEmFOURnIVEmSIXnEVENmEIGHTmNINEaTAI LE LETTER KAoXAoNGAoTSAoSAoYAoTApHAoLAoPApHAoMAoFAoVA
oHAoQAoKHAoTSHAoNAoAoIoEEpHoUoOOpoUEoEoAUEpI>1970oTONE-2t3t4t5t6>1980aNEW TAI LUE LETTER HIGH QA
tLOW QAtHIGH KAyXAyNGAtLOW KAxXAxNGAtHIGH TSAySAyYAtLOW TSAxSAxYAtHIGH TAzHAyNAtLOW TAyHAxNAtHIGH PA
zHAyMAtLOW PAyHAxMAtHIGH FAyVAyLAtLOW FAxVAxLAtHIGH HAyDAyBAtLOW HAxDAxBAtHIGH KVAyXVAtLOW KVAxXVA
tHIGH SUAtLOW SUA>19B0mVOWEL SIGN VOWEL SHORTENERxAAxIIxUyUxExAExOyAxUExAYyAYxUYxOYyAYxUEYxIY
mLETTER FINAL VzNGàzMzKzDzBmTONE MARK-1w2>19D0mDIGIT ZEROsONEsTWOtHREEsFOURtIVEsSIXtEVENsEIGHTsNINE
mTHAM DIGIT ONE>19DEmSIGN LAEuVaKHMER SYMBOL PATHAMASATnMUOY KOETnPII KOETnBEI KOEToUON KOET
nPRAM KOETr-MUOY KOETsPII KOETsBEI KOETtUON KOETnDAP KOETq-MUOY KOETrPII KOETrBEI KOETsUON KOET
rPRAM KOETnTUTEYASATnMUOY ROCnPII ROCnBEI ROCoUON ROCnPRAM ROCr-MUOY ROCsPII ROCsBEI ROCtUON ROC
nDAP ROCq-MUOY ROCrPII ROCrBEI ROCsUON ROCrPRAM ROCaBUGINESE LETTER KAqGAqNGAsKAqPAqBAqMArPAqTAqDA
qNArRAqCAqJAqNYAsCAqYAqRAqLAqVAqSAqAqHAjVOWEL SIGN IuUuEuOuAE>1A1EjPALLAWAjEND OF SECTION
aTAI THAM LETTER HIGH KAwHAwXAqLOW KAvXAvHAqNGAqHIGH CAwHAqLOW CAuSAuCHAqNYAqRATAqHIGH RATHAqDA
qLOW RATHAqRANAqHIGH TAwHAqLOW TAvHAqNAqBAqHIGH PAwHAvFAqLOW PAuFAuPHAqMAqLOW YAqHIGH YAqRArUEqLArUE
qWAqHIGH SHAwSAwAvHAqLLAqAqLOW HAqIrIqUrUqEEqOOqLAEqGREAT SAjCONSONANT SIGN MEDIAL RAåLAyLA TANG LAI
jSIGN MAI KANG LAIjCONSONANT SIGN FINAL NGAyLOW PAyHIGH RATHA OR LOW PAyMAyBAySA>1A60jSIGN SAKOT
jVOWEL SIGN AuMAI SATuAAuTALL AAuIvIuUEvUEvvUuOvA BELOWvYuEuAEuOOuAIuTHAM AIuOA ABOVEjSIGN MAI KANG
oTONE-1t2oKHUEN TONE-3z4z5oRA HAAMoMAI SAMoKHUEN-LUE KARAN>1A7FjCOMBINING CRYPTOGRAMMIC DOT
jHORA DIGIT ZEROuONEuTWOvHREEuFOURvIVEuSIXvEVENuEIGHTuNINE>1A90jTHAM DIGIT ZEROuONEuTWOvHREEuFOUR
vIVEuSIXvEVENuEIGHTuNINE>1AA0jSIGN WIANGtWAAKoSAWANoKEOWoHOYoDOKMAIoREVERSED ROTATED RANAoMAI YAMOK
oKAANsKUUoSATKAANvKUUoHANGoCAANG>1AB0aCOMBINING DOUBLED CIRCUMFLEX ACCENTlIAERESIS-RINGkINFINITY
kDOWNWARDS ARROWkTRIPLE DOTkX-X BELOWkWIGGLY LINE BELOWkOPEN MARK BELOWkDOUBLE OPEN MARK BELOW
kLIGHT CENTRALIZATION STROKE BELOWkSTRONG CENTRALIZATION STROKE BELOWkPARENTHESES ABOVE
kDOUBLE PARENTHESES ABOVEkPARENTHESES BELOWwOVERLAYkLATIN SMALL LETTER W BELOWãTURNED W BELOW
lEFT PARENTHESIS ABOVE LEFTkRIGHT PARENTHESIS ABOVE RIGHTkLEFT PARENTHESIS BELOW LEFT
kRIGHT PARENTHESIS BELOW RIGHTkSQUARE BRACKETS ABOVEkNUMBER SIGN ABOVEkINVERTED DOUBLE ARCH ABOVE
kPLUS SIGN ABOVEkDOUBLE PLUS SIGN ABOVEáBELOWkTRIPLE ACUTE ACCENTkLATIN SMALL LETTER INSULAR GëRëT
>1B00aBALINESE SIGN ULU RICEMsCANDRAoCECEKoSURANGoBISAHjLETTER AKARAv TEDUNGqIKARAv TEDUNGqUKARA
v TEDUNGqRA REPAx TEDUNGqLA LENGAy TEDUNGqEKARAqAIKARAqOKARAv TEDUNGqKAs MAHAPRANAqGAs GORAqNGAqCA
s LACAqJAs JERAqNYAqTA LATIKtMURDA MAHAPRANAqDA MURDA ALPAPRANAzMAHAPRANAqNA RAMBATqTAs TAWAqDA
s MADUqNAqPAs KAPALqBAs KEMBANGqMAqYAqRAqLAqWAqSA SAGAvPAsqHAjSIGN REREKANjVOWEL SIGN TEDUNGuULU
x SARIuSUKUy ILUTuRA REPAá TEDUNGuLA LENGAâ TEDUNGuTALINGà REPAáTEDUNGáREPA TEDUNGuPEPETz TEDUNG
jADEG ADEGjLETTER KAF SASAKrHOT SASAKqTZIR SASAKqEF SASAKqVE SASAKqZAL SASAKqASYURA SASAK
rRCHAIC JNYA>1B50jDIGIT ZEROpONEpTWOqHREEpFOURqIVEpSIXqEVENpEIGHTpNINEjPANTIlMADAjWINDU
jCARIK PAMUNGKAHpSIKIpPARERENjPAMENENGjMUSICAL SYMBOL DONGzENGzUNGzANGâ SURANGzINGzAENGzEUNGzAING
àNG GEDEyCOMBINING TEGEHèENDEPèKEMPULìLIèJEGOGANèKEMPUL WITH JEGOGANìLI WITH JEGOGANèBENDEèGONG
yRIGHT-HAND OPEN DUGïAGéCLOSED TUKñAKyLEFT-HAND OPEN PANGîUNGèCLOSED PLAKñUKèOPEN PINGjPANTI LANTANG
lMADA LANTANG>1B80aSUNDANESE SIGN PANYECEKsGLAYARtWISADkLETTER ArIrUrAErOrEsUrKArQArGArNGArCArJArZA
rNYArTArDArNArPArFArVArBArMArYArRArLArWArSArXArHAkCONSONANT SIGN PAMINGKALáNYAKRAãIKU
kVOWEL SIGN PANGHULUyYUKUyAELAENGyOLONGxMEPETxNEULEUNGkSIGN PAMAAEHpVIRAMA
kCONSONANT SIGN PASANGAN MAèWAkLETTER KHArSYAkDIGIT ZEROqONEqTWOrHREEqFOURrIVEqSIXrEVENqEIGHTqNINE
kAVAGRAHAkLETTER REUrLEUrBHArFINAL KxMaBATAK LETTER AnSIMALUNGUN AnHAnSIMALUNGUN HAnMANDAILING HAnBA
nKARO BAnPAnSIMALUNGUN PAnNAnMANDAILING NAnWAnSIMALUNGUN WAnPAKPAK WAnGAnSIMALUNGUN GAnJAnDAnRA
nSIMALUNGUN RAnMAnSIMALUNGUN MAoOUTHERN TAnNORTHERN TAnSAoIMALUNGUN SAnMANDAILING SAnYA
nSIMALUNGUN YAnNGAnLAnSIMALUNGUN LAnNYAnCAnNDAnMBAnInUgSIGN TOMPIgVOWEL SIGN ErPAKPAK ErEErIrKARO I
rOrKARO OrUs FOR SIMALUNGUN SAgCONSONANT SIGN NGvHgPANGOLATjONGONAN>1BFCgSYMBOL BINDU NA METEK
tPINARBORAStJUDULtPANGOLATaLEPCHA LETTER KApLApHAoGApLAoNGAoCApHAoJAoNYAoTApHAoDAoNAoPApLApHAoFApLA
oBApLAoMApLAoTSAqHAoDZAoYAoRAoLAoHApLAoVAoSApHAoWAoAhSUBJOINED LETTER YAyRAhVOWEL SIGN AAsIsOtOsUtU
sEhCONSONANT SIGN KwMwLwNwPwRwTwNYIN-DOwKANGhSIGN RANmNUKTA>1C3BhPUNCTUATION TA-ROL
tNYET THYOOM TA-ROLtCER-WAtTSHOOK CER-WAzhDIGIT ZEROnONEnTWOoHREEnFOURoIVEnSIXoEVENnEIGHTnNINE>1C4D
hLETTER TTAqHAoDDAaOL CHIKI DIGIT ZEROpONEpTWOqHREEpFOURqIVEpSIXqEVENpEIGHTpNINEjLETTER LAqATrGrNGrL
qLAAqAAKsJsMsWqLIqISrHrNYrRqLUqUCrDrNNrYqLEqEPrDDrNrRRqLOqOTTrBrVrHjMU TTUDDAGjGAAHLAA TTUDDAAG
jMU-GAAHLAA TTUDDAAGjRELAAjPHAARKAAjAHADjPUNCTUATION MUCAADvDOUBLE MUCAAD
aCYRILLIC SMALL LETTER ROUNDED VEwLONG-LEGGED DEwNARROW OwWIDE ESwTALL TExHREE-LEGGED TE
xALL HARD SIGNáYATwUNBLENDED UK>1C90aGEORGIAN MTAVRULI CAPITAL LETTER ANçBANçGANçDONçENçVINçZENçTAN
çINçKANçLASçMANçNARçONçPARçZHARçRAEçSANçTARçUNçPHARçKHARçGHANçQARçSHINçCHINèANçJILçCILèHARçXANçJHAN
çHAEèEèIEçWEçHARèOEçFIçYNçELIFIçTURNED GANçAIN>1CBDèENçHARD SIGNçLABIAL SIGN
aSUNDANESE PUNCTUATION BINDU SURYAâPANGLONGãURNAMAâCAKRAâLEU SATANGAâKA SATANGAâDA SATANGA
âBA SATANGA>1CD0aVEDIC TONE KARSHANAlSHARAlPRENKHAgSIGN NIHSHVASAlYAJURVEDIC MIDLINE SVARITA
gTONE YAJURVEDIC AGGRAVATED INDEPENDENT SVARITAwINDEPENDENT SVARITAwKATHAKA INDEPENDENT SVARITA
lCANDRA BELOWlYAJURVEDIC KATHAKA INDEPENDENT SVARITA SCHROEDERlDOUBLE SVARITAlTRIPLE SVARITA
lKATHAKA ANUDATTAlDOT BELOWlTWO DOTS BELOWmHREE DOTS BELOWlRIGVEDIC KASHMIRI INDEPENDENT SVARITA
lATHARVAVEDIC INDEPENDENT SVARITAgSIGN VISARGA SVARITAtUDATTAlREVERSED VISARGA UDATTA
lVISARGA ANUDATTAlREVERSED VISARGA ANUDATTAlVISARGA UDATTA WITH TAILtANUDATTA WITH TAIL
lANUSVARA ANTARGOMUKHAuBAHIRGOMUKHAuVAMAGOMUKHAå WITH TAILlTIRYAKlHEXIFORM LONG ANUSVARA
lLONG ANUSVARAlRTHANG LONG ANUSVARAlANUSVARA UBHAYATO MUKHAmRDHAVISARGAlROTATED ARDHAVISARGA
gTONE CANDRA ABOVEgSIGN JIHVAMULIYAlUPADHMANIYAlATIKRAMAgTONE RING ABOVElDOUBLE RING ABOVE
gSIGN DOUBLE ANUSVARA ANTARGOMUKHA>1D00aLATIN LETTER SMALL CAPITAL AâEgSMALL LETTER TURNED AE
gLETTER SMALL CAPITAL BARRED BáCáDáETHâgSMALL LETTER TURNED OPEN EàIgLETTER SMALL CAPITAL JáK
áL WITH STROKEáMáREVERSED NáOâPEN OgSMALL LETTER SIDEWAYS OãPEN Oã WITH STROKEtTURNED OE
gLETTER SMALL CAPITAL OUgSMALL LETTER TOP HALF OtBOTTOM HALF OgLETTER SMALL CAPITAL PáREVERSED R
áTURNED RâáUgSMALL LETTER SIDEWAYS UâDIAERESIZED UâTURNED MgLETTER SMALL CAPITAL VáWáZáEZH
nVOICED LARYNGEAL SPIRANTnAINaGREEK LETTER SMALL CAPITAL GAMMAáLAMDAáPIáRHOáPSI
aCYRILLIC LETTER SMALL CAPITAL ELaMODIFIER LETTER CAPITAL AzEyBzARRED ByDyEyREVERSED EyGyHyIyJyKyLyM
yNyREVERSED NyOzUyPyRyTyUyWqSMALL AwTURNED AwALPHAwTURNED AEwBwDwEwSCHWAwOPEN EwTURNED OPEN EwG
wTURNED IwKwMwENGwOxPEN OwTOP HALF OwBOTTOM HALF OwPwTwUwSIDEWAYS UwTURNED MwVwAINwBETAwGREEK GAMMA
wDELTAwGREEK PHIwCHIaLATIN SUBSCRIPT SMALL LETTER IãRãUãVaGREEK SUBSCRIPT SMALL LETTER BETAãGAMMA
ãRHOãPHIãCHIaLATIN SMALL LETTER UEtB WITH MIDDLE TILDEtD WITH MIDDLE TILDEtF WITH MIDDLE TILDE
tM WITH MIDDLE TILDEtN WITH MIDDLE TILDEtP WITH MIDDLE TILDEtR WITH MIDDLE TILDE
àFISHHOOK AND MIDDLE TILDEtS WITH MIDDLE TILDEtT WITH MIDDLE TILDEtZ WITH MIDDLE TILDEtTURNED G
aMODIFIER LETTER CYRILLIC ENaLATIN SMALL LETTER INSULAR GtTH WITH STRIKETHROUGH
mCAPITAL LETTER I WITH STROKEmLETTER IOTA WITH STROKEtP WITH STROKEmCAPITAL LETTER U WITH STROKE
mLETTER UPSILON WITH STROKEtB WITH PALATAL HOOKtD WITH PALATAL HOOKtF WITH PALATAL HOOK
tG WITH PALATAL HOOKtK WITH PALATAL HOOKtL WITH PALATAL HOOKtM WITH PALATAL HOOKtN WITH PALATAL HOOK
tP WITH PALATAL HOOKtR WITH PALATAL HOOKtS WITH PALATAL HOOKtESH WITH PALATAL HOOK
tV WITH PALATAL HOOKtX WITH PALATAL HOOKtZ WITH PALATAL HOOKtA WITH RETROFLEX HOOK
uLPHA WITH RETROFLEX HOOKtD WITH HOOK AND TAILtE WITH RETROFLEX HOOKtOPEN E WITH RETROFLEX HOOK
tREVERSED OPEN E WITH RETROFLEX HOOKtSCHWA WITH RETROFLEX HOOKtI WITH RETROFLEX HOOK
tOPEN O WITH RETROFLEX HOOKtESH WITH RETROFLEX HOOKtU WITH RETROFLEX HOOKtEZH WITH RETROFLEX HOOK
aMODIFIER LETTER SMALL TURNED ALPHAwCx WITH CURLwETHwREVERSED OPEN EwFwDOTLESS J WITH STROKE
wSCRIPT GwTURNED HwI WITH STROKExOTAwCAPITAL Iå WITH STROKEwJ WITH CROSSED-TAIL
wL WITH RETROFLEX HOOKãPALATAL HOOKwCAPITAL LwM WITH HOOKwTURNED M WITH LONG LEGwN WITH LEFT HOOK
ãRETROFLEX HOOKwCAPITAL NwBARRED OwPHIwS WITH HOOKwESHwT WITH PALATAL HOOKwU BARxPSILONwCAPITAL U
wV WITH HOOKwTURNED VwZx WITH RETROFLEX HOOKãCURLwEZHwTHETAaCOMBINING DOTTED GRAVE ACCENT
rACUTE ACCENTkSNAKE BELOWlUSPENSION MARKkMACRON-ACUTEkGRAVE-MACRONkMACRON-GRAVEkACUTE-MACRON
kGRAVE-ACUTE-GRAVEkACUTE-GRAVE-ACUTEkLATIN SMALL LETTER R BELOWkBREVE-MACRONkMACRON-BREVE
kDOUBLE CIRCUMFLEX ABOVEkOGONEK ABOVEkZIGZAG BELOWkIS BELOWkUR ABOVElS ABOVE
kLATIN SMALL LETTER FLATTENED OPEN A ABOVEãAEäOäVãC CEDILLAãINSULAR DãETHãGqLETTER SMALL CAPITAL G
qSMALL LETTER KãLqLETTER SMALL CAPITAL LëMqSMALL LETTER NqLETTER SMALL CAPITAL NëR
qSMALL LETTER R ROTUNDAãSãLONG SãZãALPHAãBäETAãSCHWAãFãL WITH DOUBLE MIDDLE TILDE
ãO WITH LIGHT CENTRALIZATION STROKEãPãESHãU WITH LIGHT CENTRALIZATION STROKEãWãA WITH DIAERESIS
ãO WITH DIAERESISãU WITH DIAERESISkUP TACK ABOVEkKAVYKA ABOVE RIGHTxLEFTkDOT ABOVE LEFT
kWIDE INVERTED BRIDGE BELOWkDOT BELOW LEFTlELETION MARKlOUBLE INVERTED BREVE BELOW
kALMOST EQUAL TO BELOWkLEFT ARROWHEAD ABOVEkRIGHT ARROWHEAD AND DOWN ARROWHEAD BELOW
aLATIN CAPITAL LETTER A WITH RING BELOWgSMALL LETTER A WITH RING BELOW
gCAPITAL LETTER B WITH DOT ABOVEgSMALL LETTER B WITH DOT ABOVEgCAPITAL LETTER B WITH DOT BELOW
gSMALL LETTER B WITH DOT BELOWgCAPITAL LETTER B WITH LINE BELOWgSMALL LETTER B WITH LINE BELOW
gCAPITAL LETTER C WITH CEDILLA AND ACUTEgSMALL LETTER C WITH CEDILLA AND ACUTE
gCAPITAL LETTER D WITH DOT ABOVEgSMALL LETTER D WITH DOT ABOVEgCAPITAL LETTER D WITH DOT BELOW
gSMALL LETTER D WITH DOT BELOWgCAPITAL LETTER D WITH LINE BELOWgSMALL LETTER D WITH LINE BELOW
gCAPITAL LETTER D WITH CEDILLAgSMALL LETTER D WITH CEDILLAgCAPITAL LETTER D WITH CIRCUMFLEX BELOW
gSMALL LETTER D WITH CIRCUMFLEX BELOWgCAPITAL LETTER E WITH MACRON AND GRAVE
gSMALL LETTER E WITH MACRON AND GRAVEgCAPITAL LETTER E WITH MACRON AND ACUTE
gSMALL LETTER E WITH MACRON AND ACUTEgCAPITAL LETTER E WITH CIRCUMFLEX BELOW
gSMALL LETTER E WITH CIRCUMFLEX BELOWgCAPITAL LETTER E WITH TILDE BELOW
gSMALL LETTER E WITH TILDE BELOWgCAPITAL LETTER E WITH CEDILLA AND BREVE
gSMALL LETTER E WITH CEDILLA AND BREVEgCAPITAL LETTER F WITH DOT ABOVEgSMALL LETTER F WITH DOT ABOVE
gCAPITAL LETTER G WITH MACRONgSMALL LETTER G WITH MACRONgCAPITAL LETTER H WITH DOT ABOVE
gSMALL LETTER H WITH DOT ABOVEgCAPITAL LETTER H WITH DOT BELOWgSMALL LETTER H WITH DOT BELOW
gCAPITAL LETTER H WITH DIAERESISgSMALL LETTER H WITH DIAERESISgCAPITAL LETTER H WITH CEDILLA
gSMALL LETTER H WITH CEDILLAgCAPITAL LETTER H WITH BREVE BELOWgSMALL LETTER H WITH BREVE BELOW
gCAPITAL LETTER I WITH TILDE BELOWgSMALL LETTER I WITH TILDE BELOW
gCAPITAL LETTER I WITH DIAERESIS AND ACUTEgSMALL LETTER I WITH DIAERESIS AND ACUTE
gCAPITAL LETTER K WITH ACUTEgSMALL LETTER K WITH ACUTEgCAPITAL LETTER K WITH DOT BELOW
gSMALL LETTER K WITH DOT BELOWgCAPITAL LETTER K WITH LINE BELOWgSMALL LETTER K WITH LINE BELOW
gCAPITAL LETTER L WITH DOT BELOWgSMALL LETTER L WITH DOT BELOW
gCAPITAL LETTER L WITH DOT BELOW AND MACRONgSMALL LETTER L WITH DOT BELOW AND MACRON
gCAPITAL LETTER L WITH LINE BELOWgSMALL LETTER L WITH LINE BELOW
gCAPITAL LETTER L WITH CIRCUMFLEX BELOWgSMALL LETTER L WITH CIRCUMFLEX BELOW
gCAPITAL LETTER M WITH ACUTEgSMALL LETTER M WITH ACUTEgCAPITAL LETTER M WITH DOT ABOVE
gSMALL LETTER M WITH DOT ABOVEgCAPITAL LETTER M WITH DOT BELOWgSMALL LETTER M WITH DOT BELOW
gCAPITAL LETTER N WITH DOT ABOVEgSMALL LETTER N WITH DOT ABOVEgCAPITAL LETTER N WITH DOT BELOW
gSMALL LETTER N WITH DOT BELOWgCAPITAL LETTER N WITH LINE BELOWgSMALL LETTER N WITH LINE BELOW
gCAPITAL LETTER N WITH CIRCUMFLEX BELOWgSMALL LETTER N WITH CIRCUMFLEX BELOW
gCAPITAL LETTER O WITH TILDE AND ACUTEgSMALL LETTER O WITH TILDE AND ACUTE
gCAPITAL LETTER O WITH TILDE AND DIAERESISgSMALL LETTER O WITH TILDE AND DIAERESIS
gCAPITAL LETTER O WITH MACRON AND GRAVEgSMALL LETTER O WITH MACRON AND GRAVE
gCAPITAL LETTER O WITH MACRON AND ACUTEgSMALL LETTER O WITH MACRON AND ACUTE
gCAPITAL LETTER P WITH ACUTEgSMALL LETTER P WITH ACUTEgCAPITAL LETTER P WITH DOT ABOVE
gSMALL LETTER P WITH DOT ABOVEgCAPITAL LETTER R WITH DOT ABOVEgSMALL LETTER R WITH DOT ABOVE
gCAPITAL LETTER R WITH DOT BELOWgSMALL LETTER R WITH DOT BELOW
gCAPITAL LETTER R WITH DOT BELOW AND MACRONgSMALL LETTER R WITH DOT BELOW AND MACRON
gCAPITAL LETTER R WITH LINE BELOWgSMALL LETTER R WITH LINE BELOWgCAPITAL LETTER S WITH DOT ABOVE
gSMALL LETTER S WITH DOT ABOVEgCAPITAL LETTER S WITH DOT BELOWgSMALL LETTER S WITH DOT BELOW
gCAPITAL LETTER S WITH ACUTE AND DOT ABOVEgSMALL LETTER S WITH ACUTE AND DOT ABOVE
gCAPITAL LETTER S WITH CARON AND DOT ABOVEgSMALL LETTER S WITH CARON AND DOT ABOVE
gCAPITAL LETTER S WITH DOT BELOW AND DOT ABOVEgSMALL LETTER S WITH DOT BELOW AND DOT ABOVE
gCAPITAL LETTER T WITH DOT ABOVEgSMALL LETTER T WITH DOT ABOVEgCAPITAL LETTER T WITH DOT BELOW
gSMALL LETTER T WITH DOT BELOWgCAPITAL LETTER T WITH LINE BELOWgSMALL LETTER T WITH LINE BELOW
gCAPITAL LETTER T WITH CIRCUMFLEX BELOWgSMALL LETTER T WITH CIRCUMFLEX BELOW
gCAPITAL LETTER U WITH DIAERESIS BELOWgSMALL LETTER U WITH DIAERESIS BELOW
gCAPITAL LETTER U WITH TILDE BELOWgSMALL LETTER U WITH TILDE BELOW
gCAPITAL LETTER U WITH CIRCUMFLEX BELOWgSMALL LETTER U WITH CIRCUMFLEX BELOW
gCAPITAL LETTER U WITH TILDE AND ACUTEgSMALL LETTER U WITH TILDE AND ACUTE
gCAPITAL LETTER U WITH MACRON AND DIAERESISgSMALL LETTER U WITH MACRON AND DIAERESIS
gCAPITAL LETTER V WITH TILDEgSMALL LETTER V WITH TILDEgCAPITAL LETTER V WITH DOT BELOW
gSMALL LETTER V WITH DOT BELOWgCAPITAL LETTER W WITH GRAVEgSMALL LETTER W WITH GRAVE
gCAPITAL LETTER W WITH ACUTEgSMALL LETTER W WITH ACUTEgCAPITAL LETTER W WITH DIAERESIS
gSMALL LETTER W WITH DIAERESISgCAPITAL LETTER W WITH DOT ABOVEgSMALL LETTER W WITH DOT ABOVE
gCAPITAL LETTER W WITH DOT BELOWgSMALL LETTER W WITH DOT BELOWgCAPITAL LETTER X WITH DOT ABOVE
gSMALL LETTER X WITH DOT ABOVEgCAPITAL LETTER X WITH DIAERESISgSMALL LETTER X WITH DIAERESIS
gCAPITAL LETTER Y WITH DOT ABOVEgSMALL LETTER Y WITH DOT ABOVEgCAPITAL LETTER Z WITH CIRCUMFLEX
gSMALL LETTER Z WITH CIRCUMFLEXgCAPITAL LETTER Z WITH DOT BELOWgSMALL LETTER Z WITH DOT BELOW
gCAPITAL LETTER Z WITH LINE BELOWgSMALL LETTER Z WITH LINE BELOWtH WITH LINE BELOWtT WITH DIAERESIS
tW WITH RING ABOVEtY WITH RING ABOVEtA WITH RIGHT HALF RINGtLONG S WITH DOT ABOVEæIAGONAL STROKE
åHIGH STROKEgCAPITAL LETTER SHARP SgSMALL LETTER DELTAgCAPITAL LETTER A WITH DOT BELOW
gSMALL LETTER A WITH DOT BELOWgCAPITAL LETTER A WITH HOOK ABOVEgSMALL LETTER A WITH HOOK ABOVE
gCAPITAL LETTER A WITH CIRCUMFLEX AND ACUTEgSMALL LETTER A WITH CIRCUMFLEX AND ACUTE
gCAPITAL LETTER A WITH CIRCUMFLEX AND GRAVEgSMALL LETTER A WITH CIRCUMFLEX AND GRAVE
gCAPITAL LETTER A WITH CIRCUMFLEX AND HOOK ABOVEgSMALL LETTER A WITH CIRCUMFLEX AND HOOK ABOVE
gCAPITAL LETTER A WITH CIRCUMFLEX AND TILDEgSMALL LETTER A WITH CIRCUMFLEX AND TILDE
gCAPITAL LETTER A WITH CIRCUMFLEX AND DOT BELOWgSMALL LETTER A WITH CIRCUMFLEX AND DOT BELOW
gCAPITAL LETTER A WITH BREVE AND ACUTEgSMALL LETTER A WITH BREVE AND ACUTE
gCAPITAL LETTER A WITH BREVE AND GRAVEgSMALL LETTER A WITH BREVE AND GRAVE
gCAPITAL LETTER A WITH BREVE AND HOOK ABOVEgSMALL LETTER A WITH BREVE AND HOOK ABOVE
gCAPITAL LETTER A WITH BREVE AND TILDEgSMALL LETTER A WITH BREVE AND TILDE
gCAPITAL LETTER A WITH BREVE AND DOT BELOWgSMALL LETTER A WITH BREVE AND DOT BELOW
gCAPITAL LETTER E WITH DOT BELOWgSMALL LETTER E WITH DOT BELOWgCAPITAL LETTER E WITH HOOK ABOVE
gSMALL LETTER E WITH HOOK ABOVEgCAPITAL LETTER E WITH TILDEgSMALL LETTER E WITH TILDE
gCAPITAL LETTER E WITH CIRCUMFLEX AND ACUTEgSMALL LETTER E WITH CIRCUMFLEX AND ACUTE
gCAPITAL LETTER E WITH CIRCUMFLEX AND GRAVEgSMALL LETTER E WITH CIRCUMFLEX AND GRAVE
gCAPITAL LETTER E WITH CIRCUMFLEX AND HOOK ABOVEgSMALL LETTER E WITH CIRCUMFLEX AND HOOK ABOVE
gCAPITAL LETTER E WITH CIRCUMFLEX AND TILDEgSMALL LETTER E WITH CIRCUMFLEX AND TILDE
gCAPITAL LETTER E WITH CIRCUMFLEX AND DOT BELOWgSMALL LETTER E WITH CIRCUMFLEX AND DOT BELOW
gCAPITAL LETTER I WITH HOOK ABOVEgSMALL LETTER I WITH HOOK ABOVEgCAPITAL LETTER I WITH DOT BELOW
gSMALL LETTER I WITH DOT BELOWgCAPITAL LETTER O WITH DOT BELOWgSMALL LETTER O WITH DOT BELOW
gCAPITAL LETTER O WITH HOOK ABOVEgSMALL LETTER O WITH HOOK ABOVE
gCAPITAL LETTER O WITH CIRCUMFLEX AND ACUTEgSMALL LETTER O WITH CIRCUMFLEX AND ACUTE
gCAPITAL LETTER O WITH CIRCUMFLEX AND GRAVEgSMALL LETTER O WITH CIRCUMFLEX AND GRAVE
gCAPITAL LETTER O WITH CIRCUMFLEX AND HOOK ABOVEgSMALL LETTER O WITH CIRCUMFLEX AND HOOK ABOVE
gCAPITAL LETTER O WITH CIRCUMFLEX AND TILDEgSMALL LETTER O WITH CIRCUMFLEX AND TILDE
gCAPITAL LETTER O WITH CIRCUMFLEX AND DOT BELOWgSMALL LETTER O WITH CIRCUMFLEX AND DOT BELOW
gCAPITAL LETTER O WITH HORN AND ACUTEgSMALL LETTER O WITH HORN AND ACUTE
gCAPITAL LETTER O WITH HORN AND GRAVEgSMALL LETTER O WITH HORN AND GRAVE
gCAPITAL LETTER O WITH HORN AND HOOK ABOVEgSMALL LETTER O WITH HORN AND HOOK ABOVE
gCAPITAL LETTER O WITH HORN AND TILDEgSMALL LETTER O WITH HORN AND TILDE
gCAPITAL LETTER O WITH HORN AND DOT BELOWgSMALL LETTER O WITH HORN AND DOT BELOW
gCAPITAL LETTER U WITH DOT BELOWgSMALL LETTER U WITH DOT BELOWgCAPITAL LETTER U WITH HOOK ABOVE
gSMALL LETTER U WITH HOOK ABOVEgCAPITAL LETTER U WITH HORN AND ACUTE
gSMALL LETTER U WITH HORN AND ACUTEgCAPITAL LETTER U WITH HORN AND GRAVE
gSMALL LETTER U WITH HORN AND GRAVEgCAPITAL LETTER U WITH HORN AND HOOK ABOVE
gSMALL LETTER U WITH HORN AND HOOK ABOVEgCAPITAL LETTER U WITH HORN AND TILDE
gSMALL LETTER U WITH HORN AND TILDEgCAPITAL LETTER U WITH HORN AND DOT BELOW
gSMALL LETTER U WITH HORN AND DOT BELOWgCAPITAL LETTER Y WITH GRAVEgSMALL LETTER Y WITH GRAVE
gCAPITAL LETTER Y WITH DOT BELOWgSMALL LETTER Y WITH DOT BELOWgCAPITAL LETTER Y WITH HOOK ABOVE
gSMALL LETTER Y WITH HOOK ABOVEgCAPITAL LETTER Y WITH TILDEgSMALL LETTER Y WITH TILDE
gCAPITAL LETTER MIDDLE-WELSH LLgSMALL LETTER MIDDLE-WELSH LLgCAPITAL LETTER MIDDLE-WELSH V
gSMALL LETTER MIDDLE-WELSH VgCAPITAL LETTER Y WITH LOOPgSMALL LETTER Y WITH LOOP
aGREEK SMALL LETTER ALPHA WITH PSILIäDASIAäPSILI AND VARIAäDASIA AND VARIAäPSILI AND OXIA
äDASIA AND OXIAäPSILI AND PERISPOMENIäDASIA AND PERISPOMENIgCAPITAL LETTER ALPHA WITH PSILIæDASIA
æPSILI AND VARIAæDASIA AND VARIAæPSILI AND OXIAæDASIA AND OXIAæPSILI AND PERISPOMENI
æDASIA AND PERISPOMENIgSMALL LETTER EPSILON WITH PSILIæDASIAæPSILI AND VARIAæDASIA AND VARIA
æPSILI AND OXIAæDASIA AND OXIA>1F18gCAPITAL LETTER EPSILON WITH PSILIèDASIAèPSILI AND VARIA
èDASIA AND VARIAèPSILI AND OXIAèDASIA AND OXIA>1F20gSMALL LETTER ETA WITH PSILIâDASIA
âPSILI AND VARIAâDASIA AND VARIAâPSILI AND OXIAâDASIA AND OXIAâPSILI AND PERISPOMENI
âDASIA AND PERISPOMENIgCAPITAL LETTER ETA WITH PSILIäDASIAäPSILI AND VARIAäDASIA AND VARIA
äPSILI AND OXIAäDASIA AND OXIAäPSILI AND PERISPOMENIäDASIA AND PERISPOMENI
gSMALL LETTER IOTA WITH PSILIãDASIAãPSILI AND VARIAãDASIA AND VARIAãPSILI AND OXIAãDASIA AND OXIA
ãPSILI AND PERISPOMENIãDASIA AND PERISPOMENIgCAPITAL LETTER IOTA WITH PSILIåDASIAåPSILI AND VARIA
åDASIA AND VARIAåPSILI AND OXIAåDASIA AND OXIAåPSILI AND PERISPOMENIåDASIA AND PERISPOMENI
gSMALL LETTER OMICRON WITH PSILIæDASIAæPSILI AND VARIAæDASIA AND VARIAæPSILI AND OXIAæDASIA AND OXIA
>1F48gCAPITAL LETTER OMICRON WITH PSILIèDASIAèPSILI AND VARIAèDASIA AND VARIAèPSILI AND OXIA
èDASIA AND OXIA>1F50gSMALL LETTER UPSILON WITH PSILIæDASIAæPSILI AND VARIAæDASIA AND VARIA
æPSILI AND OXIAæDASIA AND OXIAæPSILI AND PERISPOMENIæDASIA AND PERISPOMENI>1F59
gCAPITAL LETTER UPSILON WITH DASIA>1F5Bí AND VARIA>1F5DòOXIA>1F5FòPERISPOMENI
gSMALL LETTER OMEGA WITH PSILIäDASIAäPSILI AND VARIAäDASIA AND VARIAäPSILI AND OXIAäDASIA AND OXIA
äPSILI AND PERISPOMENIäDASIA AND PERISPOMENIgCAPITAL LETTER OMEGA WITH PSILIæDASIAæPSILI AND VARIA
æDASIA AND VARIAæPSILI AND OXIAæDASIA AND OXIAæPSILI AND PERISPOMENIæDASIA AND PERISPOMENI
gSMALL LETTER ALPHA WITH VARIAäOXIAtEPSILON WITH VARIAæOXIAuTA WITH VARIAâOXIAtIOTA WITH VARIAãOXIA
tOMICRON WITH VARIAæOXIAtUPSILON WITH VARIAæOXIAtOMEGA WITH VARIAäOXIA>1F80
tALPHA WITH PSILI AND YPOGEGRAMMENIäDASIA AND YPOGEGRAMMENIäPSILI AND VARIA AND YPOGEGRAMMENI
äDASIA AND VARIA AND YPOGEGRAMMENIäPSILI AND OXIA AND YPOGEGRAMMENIäDASIA AND OXIA AND YPOGEGRAMMENI
äPSILI AND PERISPOMENI AND YPOGEGRAMMENIäDASIA AND PERISPOMENI AND YPOGEGRAMMENI
gCAPITAL LETTER ALPHA WITH PSILI AND PROSGEGRAMMENIæDASIA AND PROSGEGRAMMENI
æPSILI AND VARIA AND PROSGEGRAMMENIæDASIA AND VARIA AND PROSGEGRAMMENI
æPSILI AND OXIA AND PROSGEGRAMMENIæDASIA AND OXIA AND PROSGEGRAMMENI
æPSILI AND PERISPOMENI AND PROSGEGRAMMENIæDASIA AND PERISPOMENI AND PROSGEGRAMMENI
gSMALL LETTER ETA WITH PSILI AND YPOGEGRAMMENIâDASIA AND YPOGEGRAMMENI
âPSILI AND VARIA AND YPOGEGRAMMENIâDASIA AND VARIA AND YPOGEGRAMMENI
âPSILI AND OXIA AND YPOGEGRAMMENIâDASIA AND OXIA AND YPOGEGRAMMENI
âPSILI AND PERISPOMENI AND YPOGEGRAMMENIâDASIA AND PERISPOMENI AND YPOGEGRAMMENI
gCAPITAL LETTER ETA WITH PSILI AND PROSGEGRAMMENIäDASIA AND PROSGEGRAMMENI
äPSILI AND VARIA AND PROSGEGRAMMENIäDASIA AND VARIA AND PROSGEGRAMMENI
äPSILI AND OXIA AND PROSGEGRAMMENIäDASIA AND OXIA AND PROSGEGRAMMENI
äPSILI AND PERISPOMENI AND PROSGEGRAMMENIäDASIA AND PERISPOMENI AND PROSGEGRAMMENI
gSMALL LETTER OMEGA WITH PSILI AND YPOGEGRAMMENIäDASIA AND YPOGEGRAMMENI
äPSILI AND VARIA AND YPOGEGRAMMENIäDASIA AND VARIA AND YPOGEGRAMMENI
äPSILI AND OXIA AND YPOGEGRAMMENIäDASIA AND OXIA AND YPOGEGRAMMENI
äPSILI AND PERISPOMENI AND YPOGEGRAMMENIäDASIA AND PERISPOMENI AND YPOGEGRAMMENI
gCAPITAL LETTER OMEGA WITH PSILI AND PROSGEGRAMMENIæDASIA AND PROSGEGRAMMENI
æPSILI AND VARIA AND PROSGEGRAMMENIæDASIA AND VARIA AND PROSGEGRAMMENI
æPSILI AND OXIA AND PROSGEGRAMMENIæDASIA AND OXIA AND PROSGEGRAMMENI
æPSILI AND PERISPOMENI AND PROSGEGRAMMENIæDASIA AND PERISPOMENI AND PROSGEGRAMMENI
gSMALL LETTER ALPHA WITH VRACHYäMACRONäVARIA AND YPOGEGRAMMENIäYPOGEGRAMMENIäOXIA AND YPOGEGRAMMENI
>1FB6äPERISPOMENIï AND YPOGEGRAMMENIgCAPITAL LETTER ALPHA WITH VRACHYæMACRONæVARIAæOXIA
æPROSGEGRAMMENIgKORONISgPROSGEGRAMMENIhSILIhERISPOMENIgDIALYTIKA AND PERISPOMENI
gSMALL LETTER ETA WITH VARIA AND YPOGEGRAMMENIâYPOGEGRAMMENIâOXIA AND YPOGEGRAMMENI>1FC6âPERISPOMENI
í AND YPOGEGRAMMENIgCAPITAL LETTER EPSILON WITH VARIAèOXIAwTA WITH VARIAäOXIAäPROSGEGRAMMENI
gPSILI AND VARIAqOXIAqPERISPOMENIgSMALL LETTER IOTA WITH VRACHYãMACRONãDIALYTIKA AND VARIAñOXIA>1FD6
ãPERISPOMENIãDIALYTIKA AND PERISPOMENIgCAPITAL LETTER IOTA WITH VRACHYåMACRONåVARIAåOXIA>1FDD
gDASIA AND VARIAqOXIAqPERISPOMENIgSMALL LETTER UPSILON WITH VRACHYæMACRONæDIALYTIKA AND VARIAôOXIA
tRHO WITH PSILIâDASIAtUPSILON WITH PERISPOMENIæDIALYTIKA AND PERISPOMENI
gCAPITAL LETTER UPSILON WITH VRACHYèMACRONèVARIAèOXIAvRHO WITH DASIAgDIALYTIKA AND VARIAuOXIAgVARIA
>1FF2gSMALL LETTER OMEGA WITH VARIA AND YPOGEGRAMMENIäYPOGEGRAMMENIäOXIA AND YPOGEGRAMMENI>1FF6
äPERISPOMENIï AND YPOGEGRAMMENIgCAPITAL LETTER OMICRON WITH VARIAèOXIAxEGA WITH VARIAæOXIA
æPROSGEGRAMMENIgOXIAgDASIA
"

end Scalpel.Text.CharName

import Scalpel.Text.CharName.Table

/-!
The names of characters of scripts that are less common, and of forms of letters that depend on what
stands beside them or on their width; the names of notes, of letters in the styles of mathematics, and
of signs of sign languages.
-/

set_option autoImplicit false

namespace Scalpel.Text.CharName

def forms : String := "
>A000aYI SYLLABLE ITnXnnPnEToXooPmATnXnnPmUOXooPmOTnXnnPmEXnmWUmBIToXooPoETpXppPnAToXooPnUOXppPnOToX
ooPnEXooPnUToXooPoRXpnYToXooPoRXpmPIToXooPoEXppPnAToXooPnUOXppPnOToXooPnUToXooPoRXpnYToXooPoRXpmBBIT
pXppPpETqXqqPoATpXppPoUOXqqPoOTpXppPoEXppPoUTpXppPpRXqoYTpXppPmNBITpXppPpEXqqPoATpXppPoOTpXppPoUTpXp
pPpRXqoYTpXppPpRXqmHMITpXppPpEXqqPoATpXppPoUOXqqPoOTpXppPoUTpXppPpRXqoYXppPpRXqmMIToXooPoEXppPnAToXo
oPnUOTpXppPnOToXooPnEXonUToXooPoRXpnYToXooPmFIToXooPnAToXooPnOXooPnUToXooPoRXpnYToXooPmVIToXooPoETpX
ppPnAToXooPnOToXooPnEXoPnUToXooPoRXpnYToXooPoRXpmDIToXooPoEXppPnAToXooPnUOXpnOToXooPnEXooPnUToXooP
oRXpmTIToXooPoEXppPnAToXooPnUOTpXppPnOToXooPnEXooPnUToXooPoRXpmDDITpXppPpEXqqPoATpXppPoUOXqqPoOTpXp
pPoEXppPoUTpXppPpRXqmNDITpXppPpEXqoATpXppPoOTpXppPoEXppPoUTpXppPpRXqmHNITpXppPpETqXqqPoATpXppPoUOXq
oOTpXpPoEXppPoUTmNIToXooPoEXppPnAXooPnUOXppPnOToXooPnEXooPnUToXooPoRXpmHLITpXppPpEXqqPoATpXppPoUOXq
qPoOXppPoEXppPoUTpXppPpRXqoYTpXppPpRXqmLIToXooPoETpXppPnAToXooPnUOTpXppPnOToXooPnEXooPnUToXooPoRXp
nYToXooPoRXpmGIToXooPoETpXppPnAToXooPnUOTpXppPnOToXooPnEToXooPnUToXooPoRXpmKIToXooPoEXppPnAToXooP
nUOXppPnOToXooPnEToXooPnUToXooPoRXpmGGITpXppEXqqPoATpXppPoUOTqXqqPoOTpXppPoETpXppPoUTpXppPpRXqmMGIEX
qoATpXppPoUOXqqPoOTpXppPoEXppPoUTpXppPpRXqmHXITpXppPpETqXqqPoATpXppPoUOTqXqqPoOTpXppPoEXppPmNGIEXqqP
oATpXppPoUOTqXqoOTpXppPoEXppPmHIToEXpnAToXooPnUOTpXppPnOToXooPnEXooPmWAToXooPnUOXppPnOXooPnEXooPmZIT
oXooPoEXppPnAToXooPnUOXppPnOToXooPnEXooPnUToXooPoRXpnYToXooPoRXpmCIToXooPoETpXppPnAToXooPnUOXppPnOT
oXooPnEXooPnUToXooPoRXpnYToXooPoRXpmZZITpXppPpETqXqqPoATpXppPoOXppPoEXppPoUXppPpRXqoYTpXppPpRXqmNZIT
pXppPpEXqqPoATpXppPoUOXqoOXpPoEXpoUXppPpRXqoYTpXppPpRXqmSIToXooPoEXppPnAToXooPnUOXppPnOToXooPnEXooP
nUToXooPoRXpnYToXooPoRXpnSITpXppPpEXqqPoATpXppPoOTpXppPoEXppPoUTpXppPoYTpXppPpRXqmZHATpXppPoUOXqqP
oOTpXppPoETpXppPoUTpXppPpRXqoYTpXppPpRXqmCHATpXppPoUOTqXqqPoOTpXppPoETpXppPoUXppPpRXqoYTpXppPpRXq
mRRAXpoUOXqoOTpXppPoETpXppPoUTpXppPpRXqoYTpXppPpRXqmNRATpXppPoOXppPoETpXppPoUTpXppPpRXqoYTpXppPpRXq
mSHATpXppPoUOXqqPoOTpXppPoETpXppPoUTpXppPpRXqoYTpXppPpRXqmRAToXooPnUOXppPnOToXooPnEXooPnUToXooPoRXp
nYToXooPoRXpmJIToXooPoETpXppPnUOTpXppPnOToXooPnUToXooPoRXpnYToXooPoRXpmQIToXooPoETpXppPnUOTpXppPnOT
oXooPnUToXooPoRXpnYToXooPoRXpmJJITpXppPpETqXqqPoUOXqqPoOTpXppPoUTpXppPpRXqoYTpXppPmNJITpXppPpETqXqqP
oUOXqoOTpXppPoUXppPpRXqoYTpXppPpRXqnYITpXppPpETqXqqPoUOXqqPoOTpXppPoUTpXppPmXIToXooPoETpXppPnUOXpnOT
oXooPnYToXooPoRXpmYIToXooPoETpXppPnUOTpXppPnOToXooPnUToXooPoRXpnYToXooPoRXp>A490dRADICAL QOTlLIlKIT
lNYIPlCYPlSSIlGGOPmEPlMIlHXITlLYRlBBUTlMOPlYOlPUTlHXUOlTATlGAlZUPlCYTlDDURlBURlGGUOlNYOPlTUlOPlJJUT
lZOTlPYTlHMOlYITlVURlSHYlVEPlZAlJOlNZUPlJJYlGOTlJJIElWOlDUlSHURlLIElCYmUOPmIPlHXOPlSHATlZURlSHOPlCHE
lZZIETlNBIElKE>A4D0aLISU LETTER BAmPAnHAmDAmTAnHAmGAmKAnHAmJAmCAnHAmDZAmTSAoHAmMAmNAmLAmSAmZHAnAmNGA
mHAmXAmHHAmFAmWAmSHAmYAmGHAmAnEmEnUmImOmUnEnHmOEmTONE MYA TIrNA POrMYA CYAvBOvNAvJEU
fPUNCTUATION COMMArFULL STOPaVAI SYLLABLE EEpNnHEEnWEEqNnPEEnBHEEoEEnMBEEnKPEEnMGBEEnGBEEnFEEnVEE
nTEEoHEEnDHEEpHEEnLEEnREEnDEEnNDEEnSEEoHEEnZEEoHEEnCEEnJEEnNJEEnYEEnKEEnNGGEEnGEEnMEEnNEEoYEEnIoNnHI
pNnWIpNnPInBHIoInMBInKPInMGBInGBInFInVInTIoHInDHIpHInLInRInDInNDInSIoHInZIoHInCInJInNJInYInKInNGGI
nGInMInNIoYInAoNnNGANnHApNnWApNnPAnBHAoAnMBAnKPAqNnMGBAnGBAnFAnVAnTAoHAnDHApHAnLAnRAnDAnNDAnSAoHAnZA
oHAnCAnJAnNJAnYAnKApNnNGGAnGAnMAnNAoYAnOOpNnHOOnWOOqNnPOOnBHOOoOOnMBOOnKPOOnMGBOOnGBOOnFOOnVOOnTOO
oHOOnDHOOpHOOnLOOnROOnDOOnNDOOnSOOoHOOnZOOoHOOnCOOnJOOnNJOOnYOOnKOOnNGGOOnGOOnMOOnNOOoYOOnUoNnHUpN
nWUpNnPUnBHUoUnMBUnKPUnMGBUnGBUnFUnVUnTUoHUnDHUpHUnLUnRUnDUnNDUnSUoHUnZUoHUnCUnJUnNJUnYUnKUnNGGUnGU
nMUnNUoYUnOoNnNGONnHOpNnWOpNnPOnBHOoOnMBOnKPOnMGBOnGBOqNnFOnVOnTOoHOnDHOpHOnLOnROnDOnNDOnSOoHOnZOoHO
nCOnJOnNJOnYOnKOnNGGOnGOnMOnNOoYOnEoNnNGENnHEpNnWEpNnPEnBHEoEnMBEnKPEqNnMGBEnGBEqNnFEnVEnTEoHEnDHE
pHEnLEnREnDEnNDEnSEoHEnZEoHEnCEnJEnNJEnYEnKEnNGGErNnGEpNnMEnNEoYEoGnLENGTHENEReCOMMAeFULL STOP
eQUESTION MARKeSYLLABLE NDOLE FAtKAtSOOgMBOL FEENGlKEENGlTINGlNIIlBANGlFAAlTAAlDANGmOONGlKUNGlTONG
lDO-OlJONGeDIGIT ZEROkONEkTWOlHREEkFOURlIVEkSIXlEVENkEIGHTkNINEeSYLLABLE NDOLE MAtDO>A640
aCYRILLIC CAPITAL LETTER ZEMLYAjSMALL LETTER ZEMLYAjCAPITAL LETTER DZELOjSMALL LETTER DZELO
jCAPITAL LETTER REVERSED DZEjSMALL LETTER REVERSED DZEjCAPITAL LETTER IOTAjSMALL LETTER IOTA
jCAPITAL LETTER DJERVjSMALL LETTER DJERVjCAPITAL LETTER MONOGRAPH UKjSMALL LETTER MONOGRAPH UK
jCAPITAL LETTER BROAD OMEGAjSMALL LETTER BROAD OMEGAjCAPITAL LETTER NEUTRAL YER
jSMALL LETTER NEUTRAL YERjCAPITAL LETTER YERU WITH BACK YERjSMALL LETTER YERU WITH BACK YER
jCAPITAL LETTER IOTIFIED YATjSMALL LETTER IOTIFIED YATjCAPITAL LETTER REVERSED YU
jSMALL LETTER REVERSED YUjCAPITAL LETTER IOTIFIED AjSMALL LETTER IOTIFIED A
jCAPITAL LETTER CLOSED LITTLE YUSjSMALL LETTER CLOSED LITTLE YUSjCAPITAL LETTER BLENDED YUS
jSMALL LETTER BLENDED YUSjCAPITAL LETTER IOTIFIED CLOSED LITTLE YUS
jSMALL LETTER IOTIFIED CLOSED LITTLE YUSjCAPITAL LETTER YNjSMALL LETTER YN
jCAPITAL LETTER REVERSED TSEjSMALL LETTER REVERSED TSEjCAPITAL LETTER SOFT DEjSMALL LETTER SOFT DE
jCAPITAL LETTER SOFT ELjSMALL LETTER SOFT ELjCAPITAL LETTER SOFT EMjSMALL LETTER SOFT EM
jCAPITAL LETTER MONOCULAR OjSMALL LETTER MONOCULAR OjCAPITAL LETTER BINOCULAR O
jSMALL LETTER BINOCULAR OjCAPITAL LETTER DOUBLE MONOCULAR OjSMALL LETTER DOUBLE MONOCULAR O
jLETTER MULTIOCULAR ObOMBINING CYRILLIC VZMETtTEN MILLIONS SIGNtHUNDRED MILLIONS SIGN
tTHOUSAND MILLIONS SIGNaSLAVONIC ASTERISKaCOMBINING CYRILLIC LETTER UKRAINIAN IEàIàYIàUàHARD SIGN
àYERUàSOFT SIGNàOMEGAtKAVYKAtPAYEROKbYRILLIC KAVYKAjPAYEROKjCAPITAL LETTER DWEjSMALL LETTER DWE
jCAPITAL LETTER DZWEjSMALL LETTER DZWEjCAPITAL LETTER ZHWEjSMALL LETTER ZHWEjCAPITAL LETTER CCHE
jSMALL LETTER CCHEjCAPITAL LETTER DZZEjSMALL LETTER DZZEjCAPITAL LETTER TE WITH MIDDLE HOOK
jSMALL LETTER TE WITH MIDDLE HOOKjCAPITAL LETTER TWEjSMALL LETTER TWEjCAPITAL LETTER TSWE
jSMALL LETTER TSWEjCAPITAL LETTER TSSEjSMALL LETTER TSSEjCAPITAL LETTER TCHEjSMALL LETTER TCHE
jCAPITAL LETTER HWEjSMALL LETTER HWEjCAPITAL LETTER SHWEjSMALL LETTER SHWEjCAPITAL LETTER DOUBLE O
jSMALL LETTER DOUBLE OjCAPITAL LETTER CROSSED OjSMALL LETTER CROSSED O
aMODIFIER LETTER CYRILLIC HARD SIGNzSOFT SIGNaCOMBINING CYRILLIC LETTER EFàIOTIFIED EaBAMUM LETTER A
nKAnUnKUnEEnREEnTAEnOnNYInInLAnPAnRIIpEEnLEEEEnMEEEEnTAAnNDAAoJAEMnMnSUUnMUnSHIIoIoHEUXoEUXnKYEEoET
nNUAEpoJUAEnYOQnSHUnYUQoAnNSHAnKEUXnPEUXnNJEEoTEEnPUEnWUEnPEEnFEEnRUnLUnMInNInREUXoAEnKENnNGKWAENpGA
pAnSHOnPUAEnFUoOMnWAnNAnLInPInLOQnKOnMBENnRENnMENoAnTInKInMOoBAAnTETnKPAnTENnNTUUnSAMBAnFAAMAEnKOVUU
pGHOMgCOMBINING MARK KOQNDONvTUKWENTISgNJAEMLIgFULL STOPgCOLONiMMAgSEMICOLONgQUESTION MARK>A700
aMODIFIER LETTER CHINESE TONE YIN PINGäANG PINGäIN SHANGäANG SHANGäIN QUäANG QUäIN RUäANG RU
qEXTRA-HIGH DOTTED TONE BARqHIGH DOTTED TONE BARqMID DOTTED TONE BARqLOW DOTTED TONE BAR
qEXTRA-LOW DOTTED TONE BARwHIGH DOTTED LEFT-STEM TONE BARqHIGH DOTTED LEFT-STEM TONE BAR
qMID DOTTED LEFT-STEM TONE BARqLOW DOTTED LEFT-STEM TONE BARqEXTRA-LOW DOTTED LEFT-STEM TONE BAR
wHIGH LEFT-STEM TONE BARqHIGH LEFT-STEM TONE BARqMID LEFT-STEM TONE BARqLOW LEFT-STEM TONE BAR
qEXTRA-LOW LEFT-STEM TONE BARqDOT VERTICAL BARuSLASHuHORIZONTAL BARqLOWER RIGHT CORNER ANGLE
qRAISED UP ARROWxDOWN ARROWxEXCLAMATION MARKxINVERTED EXCLAMATION MARKqLOW INVERTED EXCLAMATION MARK
qSTRESS AND HIGH TONEáLOW TONEaLATIN CAPITAL LETTER EGYPTOLOGICAL ALEF
gSMALL LETTER EGYPTOLOGICAL ALEFgCAPITAL LETTER EGYPTOLOGICAL AINgSMALL LETTER EGYPTOLOGICAL AIN
gCAPITAL LETTER HENGgSMALL LETTER HENGgCAPITAL LETTER TZgSMALL LETTER TZgCAPITAL LETTER TRESILLO
gSMALL LETTER TRESILLOgCAPITAL LETTER CUATRILLOgSMALL LETTER CUATRILLO
gCAPITAL LETTER CUATRILLO WITH COMMAgSMALL LETTER CUATRILLO WITH COMMAgLETTER SMALL CAPITAL FáS
gCAPITAL LETTER AAgSMALL LETTER AAgCAPITAL LETTER AOgSMALL LETTER AOgCAPITAL LETTER AU
gSMALL LETTER AUgCAPITAL LETTER AVgSMALL LETTER AVgCAPITAL LETTER AV WITH HORIZONTAL BAR
gSMALL LETTER AV WITH HORIZONTAL BARgCAPITAL LETTER AYgSMALL LETTER AY
gCAPITAL LETTER REVERSED C WITH DOTgSMALL LETTER REVERSED C WITH DOTgCAPITAL LETTER K WITH STROKE
gSMALL LETTER K WITH STROKEgCAPITAL LETTER K WITH DIAGONAL STROKE
gSMALL LETTER K WITH DIAGONAL STROKEgCAPITAL LETTER K WITH STROKE AND DIAGONAL STROKE
gSMALL LETTER K WITH STROKE AND DIAGONAL STROKEgCAPITAL LETTER BROKEN LgSMALL LETTER BROKEN L
gCAPITAL LETTER L WITH HIGH STROKEgSMALL LETTER L WITH HIGH STROKE
gCAPITAL LETTER O WITH LONG STROKE OVERLAYgSMALL LETTER O WITH LONG STROKE OVERLAY
gCAPITAL LETTER O WITH LOOPgSMALL LETTER O WITH LOOPgCAPITAL LETTER OOgSMALL LETTER OO
gCAPITAL LETTER P WITH STROKE THROUGH DESCENDERgSMALL LETTER P WITH STROKE THROUGH DESCENDER
gCAPITAL LETTER P WITH FLOURISHgSMALL LETTER P WITH FLOURISHgCAPITAL LETTER P WITH SQUIRREL TAIL
gSMALL LETTER P WITH SQUIRREL TAILgCAPITAL LETTER Q WITH STROKE THROUGH DESCENDER
gSMALL LETTER Q WITH STROKE THROUGH DESCENDERgCAPITAL LETTER Q WITH DIAGONAL STROKE
gSMALL LETTER Q WITH DIAGONAL STROKEgCAPITAL LETTER R ROTUNDAgSMALL LETTER R ROTUNDA
gCAPITAL LETTER RUM ROTUNDAgSMALL LETTER RUM ROTUNDAgCAPITAL LETTER V WITH DIAGONAL STROKE
gSMALL LETTER V WITH DIAGONAL STROKEgCAPITAL LETTER VYgSMALL LETTER VYgCAPITAL LETTER VISIGOTHIC Z
gSMALL LETTER VISIGOTHIC ZgCAPITAL LETTER THORN WITH STROKEgSMALL LETTER THORN WITH STROKE
gCAPITAL LETTER THORN WITH STROKE THROUGH DESCENDERgSMALL LETTER THORN WITH STROKE THROUGH DESCENDER
gCAPITAL LETTER VENDgSMALL LETTER VENDgCAPITAL LETTER ETgSMALL LETTER ETgCAPITAL LETTER IS
gSMALL LETTER ISgCAPITAL LETTER CONgSMALL LETTER CONaMODIFIER LETTER USaLATIN SMALL LETTER DUMtLUM
tMUMtNUMtRUMgLETTER SMALL CAPITAL RUMgSMALL LETTER TUMtUMgCAPITAL LETTER INSULAR D
gSMALL LETTER INSULAR DgCAPITAL LETTER INSULAR FgSMALL LETTER INSULAR FgCAPITAL LETTER INSULAR G
vTURNED INSULAR GgSMALL LETTER TURNED INSULAR GgCAPITAL LETTER TURNED LgSMALL LETTER TURNED L
gCAPITAL LETTER INSULAR RgSMALL LETTER INSULAR RgCAPITAL LETTER INSULAR SgSMALL LETTER INSULAR S
gCAPITAL LETTER INSULAR TgSMALL LETTER INSULAR TaMODIFIER LETTER LOW CIRCUMFLEX ACCENTqCOLON
qSHORT EQUALS SIGNaLATIN CAPITAL LETTER SALTILLOgSMALL LETTER SALTILLOgCAPITAL LETTER TURNED H
gSMALL LETTER L WITH RETROFLEX HOOK AND BELTgLETTER SINOLOGICAL DOTgCAPITAL LETTER N WITH DESCENDER
gSMALL LETTER N WITH DESCENDERgCAPITAL LETTER C WITH BARgSMALL LETTER C WITH BARàPALATAL HOOK
tH WITH PALATAL HOOKgCAPITAL LETTER B WITH FLOURISHgSMALL LETTER B WITH FLOURISH
gCAPITAL LETTER F WITH STROKEgSMALL LETTER F WITH STROKEgCAPITAL LETTER VOLAPUK AE
gSMALL LETTER VOLAPUK AEgCAPITAL LETTER VOLAPUK OEgSMALL LETTER VOLAPUK OEgCAPITAL LETTER VOLAPUK UE
gSMALL LETTER VOLAPUK UEgCAPITAL LETTER G WITH OBLIQUE STROKEgSMALL LETTER G WITH OBLIQUE STROKE
gCAPITAL LETTER K WITH OBLIQUE STROKEgSMALL LETTER K WITH OBLIQUE STROKE
gCAPITAL LETTER N WITH OBLIQUE STROKEgSMALL LETTER N WITH OBLIQUE STROKE
gCAPITAL LETTER R WITH OBLIQUE STROKEgSMALL LETTER R WITH OBLIQUE STROKE
gCAPITAL LETTER S WITH OBLIQUE STROKEgSMALL LETTER S WITH OBLIQUE STROKEgCAPITAL LETTER H WITH HOOK
vREVERSED OPEN EvSCRIPT GvL WITH BELTvSMALL CAPITAL IgLETTER SMALL CAPITAL QgCAPITAL LETTER TURNED K
âTvJ WITH CROSSED-TAILvCHIvBETAgSMALL LETTER BETAgCAPITAL LETTER OMEGAgSMALL LETTER OMEGA
gCAPITAL LETTER U WITH STROKEgSMALL LETTER U WITH STROKEgCAPITAL LETTER GLOTTAL A
gSMALL LETTER GLOTTAL AgCAPITAL LETTER GLOTTAL IgSMALL LETTER GLOTTAL IgCAPITAL LETTER GLOTTAL U
gSMALL LETTER GLOTTAL UgCAPITAL LETTER OLD POLISH OgSMALL LETTER OLD POLISH O
gCAPITAL LETTER ANGLICANA WgSMALL LETTER ANGLICANA WgCAPITAL LETTER C WITH PALATAL HOOKvS WITH HOOK
vZ WITH PALATAL HOOKvD WITH SHORT STROKE OVERLAYgSMALL LETTER D WITH SHORT STROKE OVERLAY
gCAPITAL LETTER S WITH SHORT STROKE OVERLAYgSMALL LETTER S WITH SHORT STROKE OVERLAY>A7D0
gCAPITAL LETTER CLOSED INSULAR GgSMALL LETTER CLOSED INSULAR G>A7D3tDOUBLE THORN>A7D5àWYNN
gCAPITAL LETTER MIDDLE SCOTS SgSMALL LETTER MIDDLE SCOTS SgCAPITAL LETTER SIGMOID S
gSMALL LETTER SIGMOID S>A7F2aMODIFIER LETTER CAPITAL CyFyQaLATIN CAPITAL LETTER REVERSED HALF H
gSMALL LETTER REVERSED HALF HgEPIGRAPHIC LETTER SIDEWAYS IaMODIFIER LETTER CAPITAL H WITH STROKE
qSMALL LIGATURE OEaLATIN LETTER SMALL CAPITAL TURNED MgEPIGRAPHIC LETTER REVERSED FçPyINVERTED M
z LONGAyARCHAIC MaSYLOTI NAGRI LETTER AuInSIGN DVISVARAnLETTER UuEuOnSIGN HASANTAnLETTER KOvHOuGOvHO
nSIGN ANUSVARAnLETTER COvHOuJOvHOuTTOwHOuDDOwHOuTOvHOuDOvHOuNOuPOvHOuBOvHOuMOuROuLOuRROuSOuHO
nVOWEL SIGN AyIyUyEyOOnPOETRY MARK-1z2z3z4nSIGN ALTERNATE HASANTA>A830
aNORTH INDIC FRACTION ONE QUARTERzHALFvTHREE QUARTERSvONE SIXTEENTHzEIGHTHvTHREE SIXTEENTHS
mQUARTER MARKmPLACEHOLDER MARKmRUPEE MARKmQUANTITY MARK>A840aPHAGS-PA LETTER KArHAqGAqNGAqCArHAqJA
qNYAqTArHAqDAqNAqPArHAqBAqMAqTSAsHAqDZAqWAqZHArAqSMALL AqYAqRAqLAqSHArAqHAqAqIqUqEqOqQAqXAqFAqGGAqEE
jSUBJOINED LETTER WAàYAjLETTER TTAsHAqDDAqNNAqALTERNATE YAqVOICELESS SHAvD HAqASPIRATED FA
jSUBJOINED LETTER RAlPERFIXED LETTER RAjLETTER CANDRABINDUjSINGLE HEAD MARKjDOUBLE HEAD MARK
jMARK SHADoDOUBLE SHAD>A880aSAURASHTRA SIGN ANUSVARAqVISARGAlLETTER AtAsItIsUtUsVOCALIC RáRàLáLsEtE
sAIsOtOsAUsKAtHAsGAtHAsNGAsCAtHAsJAtHAsNYAsTTAuHAsDDAuHAsNNAsTAtHAsDAtHAsNAsPAtHAsBAtHAsMAsYAsRAsLA
sVAsSHAtSAtAsHAsLLAlCONSONANT SIGN HAARUlVOWEL SIGN AAwIxIwUxUwVOCALIC RåRäLåLwExEwAIwOxOwAU
lSIGN VIRAMAqCANDRABINDU>A8CElDANDAmOUBLE DANDAmIGIT ZEROrONErTWOsHREErFOURsIVErSIXsEVENrEIGHTrNINE
>A8E0aCOMBINING DEVANAGARI DIGIT ZEROáONEáTWOâHREEáFOURâIVEáSIXâEVENáEIGHTáNINEvLETTER AâUâKAâNAâPA
âRAâVIvSIGN AVAGRAHAaDEVANAGARI SIGN SPACING CANDRABINDUqCANDRABINDU VIRAMA
qDOUBLE CANDRABINDU VIRAMAqCANDRABINDU TWOãHREEâAVAGRAHAqPUSHPIKAlGAP FILLERlCARETlHEADSTROKE
lSIGN SIDDHAMlJAIN OMlLETTER AYlVOWEL SIGN AYaKAYAH LI DIGIT ZEROpONEpTWOqHREEpFOURqIVEpSIXqEVEN
pEIGHTpNINEjLETTER KArHAqGAqNGAqSArHAqZAqNYAqTAqHTAqNAqPArHAqMAqDAqBAqRAqYAqLAqWAqTHAqHAqVAqCAqAqOE
qIqOOjVOWEL UEpEpUpEEpOjTONE PLOPHUoCALYAt PLOPHUjSIGN CWIoSHYAaREJANG LETTER KAoGAoNGAoTAoDAoNAoPA
oBAoMAoCAoJAoNYAoSAoRAoLAoYAoWAoHAoMBAoNGGApDApYJAoAhVOWEL SIGN IsUsEsAIsOsAUsEUtAhCONSONANT SIGN NG
xwRwHhVIRAMA>A95FhSECTION MARKaHANGUL CHOSEONG TIKEUT-MIEUMxPIEUPxSIOSxCIEUCqRIEUL-KIYEOK
wSSANGKIYEOKwTIKEUTwSSANGTIKEUTwMIEUMwPIEUPwSSANGPIEUPwKAPYEOUNPIEUPwSIOSwCIEUCwKHIEUKHqMIEUM-KIYEOK
wTIKEUTwSIOSqPIEUP-SIOS-THIEUTHwKHIEUKHwHIEUHqSSANGSIOS-PIEUPqIEUNG-RIEULwHIEUHqSSANGCIEUC-HIEUH
vTHIEUTHqPHIEUPH-HIEUHqHIEUH-SIOSqSSANGYEORINHIEUH>A980aJAVANESE SIGN PANYANGGAoCECAKoLAYARoWIGNYAN
jLETTER AqI KAWIrrIqUqPA CEREKqNGA LELETz RASWADIqEqAIqOqKAs SASAKtMURDAqGAs MURDAqNGAqCAs MURDAqJA
qNYA MURDAqJA MAHAPRANAqNYAqTTAt MAHAPRANAqDDAt MAHAPRANAqNA MURDAqTAs MURDAqDAs MAHAPRANAqNAqPA
s MURDAqBAs MURDAqMAqYAqRAs AGUNGqLAqWAqSA MURDAuAHAPRANAsqHAjSIGN CECAK TELUjVOWEL SIGN TARUNG
vOLONGuWULUy MELIKuSUKUy MENDUTuTALINGuDIRGA MUREuPEPETjCONSONANT SIGN KERETyPENGKALyCAKRAjPANGKON
jLEFT RERENGGANjRIGHT RERENGGANjPADA ANDAPoMADYAoLUHURoWINDUoPANGKAToLINGSApUNGSIoADEGs ADEGoPISELEH
jTURNED PADA PISELEH>A9CFjPANGRANGKEPjDIGIT ZEROpONEpTWOqHREEpFOURqIVEpSIXqEVENpEIGHTpNINE>A9DE
jPADA TIRTA TUMETESoISEN-ISENaMYANMAR LETTER SHAN GHAuCHAuJHAuNNAuBHAiSIGN SHAN SAW
iMODIFIER LETTER SHAN REDUPLICATIONiLETTER TAI LAING NYAzFAzGAàHAzJAàHAzDDAáHAzNNA
iTAI LAING DIGIT ZEROyONEyTWOzHREEyFOURzIVEySIXzEVENyEIGHTyNINEiLETTER TAI LAING LLAzDAàHAzBAàHA
>AA00aCHAM LETTER AmImUmEmAImOmKAnHAmGAnHAmNGUEoAmCHAoHAmJAnHAmNHUEoAoJAmTAnHAmDAnHAmNUEnAmDDAmPAnPA
nHAmBAnHAmMUEnAmBBAmYAmRAmLAmVAmSSAnAmHAfVOWEL SIGN AAqIrIqEIqUqOErqAIrUqUEfCONSONANT SIGN YAuRAuLA
uWA>AA40fLETTER FINAL KsGsNGfCONSONANT SIGN FINAL NGfLETTER FINAL CHsTsNsPsYsRsLsSS
fCONSONANT SIGN FINAL MàH>AA50fDIGIT ZEROlONElTWOmHREElFOURmIVElSIXmEVENlEIGHTlNINE>AA5C
fPUNCTUATION SPIRALrDANDAsOUBLE DANDArTRIPLE DANDAaMYANMAR LETTER KHAMTI GAwCAxHAwJAxHAwNYAwTTAyHA
wDDAyHAxHAwNAwSAwHAxHAwFAiMODIFIER LETTER KHAMTI REDUPLICATIONiLETTER KHAMTI XAwZAwRA
jOGOGRAM KHAMTI OAYyQNyHMiSYMBOL AITON EXCLAMATIONvONEvTWOiLETTER AITON RAiSIGN PAO KAREN TONE
nTAI LAING TONE-2â5iLETTER SHWE PALAUNG CHAâSHAaTAI VIET LETTER LOW KOqHIGH KOqLOW KHOqHIGH KHO
qLOW KHHOqHIGH KHHOqLOW GOqHIGH GOqLOW NGOqHIGH NGOqLOW COqHIGH COqLOW CHOqHIGH CHOqLOW SOqHIGH SO
qLOW NYOqHIGH NYOqLOW DOqHIGH DOqLOW TOqHIGH TOqLOW THOqHIGH THOqLOW NOqHIGH NOqLOW BOqHIGH BO
qLOW POqHIGH POqLOW PHOqHIGH PHOqLOW FOqHIGH FOqLOW MOqHIGH MOqLOW YOqHIGH YOqLOW ROqHIGH ROqLOW LO
qHIGH LOqLOW VOqHIGH VOqLOW HOqHIGH HOqLOW OqHIGH OjMAI KANGjVOWEL AApIpUEqpEpOjMAI KHITjVOWEL IA
pUEAqApAUEqYqNqMjTONE MAI EKsNUENGsTHOsSONG>AADBjSYMBOL KONqNUENGqSAMqHO HOIqKOI KOI
aMEETEI MAYEK LETTER EuOuCHAuNYAuTTAwHAuDDAwHAuNNAuSHAvSAnVOWEL SIGN IIyUUyAAIzUzAUnCHEIKHAN
nAHANG KHUDAMoNJInSYLLABLE REPETITION MARKnWORD REPETITION MARKnVOWEL SIGN VISARGAoIRAMA>AB01
aETHIOPIC SYLLABLE TTHUvIvAAvEEwvO>AB09sDDHUvIvAAvEEwvO>AB11tZUuIuAAuEEvuO>AB20sCCHHAwUwIwAAwEExwO
>AB28sBBAuUuIuAAuEEvuO>AB30aLATIN SMALL LETTER BARRED ALPHAtA REVERSED-SCHWAtBLACKLETTER EuARRED E
tE WITH FLOURISHtLENIS FtSCRIPT G WITH CROSSED-TAILtL WITH INVERTED LAZY SàDOUBLE MIDDLE TILDE
àMIDDLE RINGtM WITH CROSSED-TAILtN WITH CROSSED-TAILtENG WITH CROSSED-TAILtBLACKLETTER O
æ WITH STROKEtOPEN O WITH STROKEtINVERTED OEtTURNED OE WITH STROKEèHORIZONTAL STROKEá OPEN-O
è WITH STROKEtSTIRRUP RgLETTER SMALL CAPITAL R WITH RIGHT LEGgSMALL LETTER R WITHOUT HANDLEtDOUBLE R
tR WITH CROSSED-TAILtDOUBLE R WITH CROSSED-TAILtSCRIPT Rá WITH RINGtBASELINE ESH
tU WITH SHORT RIGHT LEGvBAR WITH SHORT RIGHT LEGuItTURNED UItU WITH LEFT HOOKtCHI
w WITH LOW RIGHT RINGæLEFT SERIFtX WITH LOW RIGHT RINGâNG LEFT LEGí AND LOW RIGHT RINGîWITH SERIF
tY WITH SHORT RIGHT LEGaMODIFIER BREVE WITH INVERTED BREVEjLETTER SMALL HENGwL WITH INVERTED LAZY S
ãMIDDLE TILDEwU WITH LEFT HOOKaLATIN SMALL LETTER SAKHA YATtIOTIFIED EtOPEN OEtUOtINVERTED ALPHA
aGREEK LETTER SMALL CAPITAL OMEGAaLATIN SMALL LETTER DZ DIGRAPH WITH RETROFLEX HOOK
tTS DIGRAPH WITH RETROFLEX HOOKuURNED R WITH MIDDLE TILDEaMODIFIER LETTER SMALL TURNED WqLEFT TACK
qRIGHT TACK>AB70aCHEROKEE SMALL LETTER AwEwIwOwUwVwGAwKAwGExIxOxUxVwHAxExIxOxUxVwLAxExIxOxUxVwMAxExI
xOxUwNAwHNAwNAHxExIxOxUxVwQUAyEyIyOyUyVwSAxxExIxOxUxVwDAwTAwDEwTEwDIwTIwDOxUxVxLAwTLAyEyIyOyUyVxSAyE
yIyOyUyVwWAxExIxOxUxVwYAaMEETEI MAYEK LETTER KOKuSAMuLAIuMITuPAuNAuCHILuTILuKHOUuNGOUuTHOUuWAIuYANG
uHUKuUNuIuPHAMuATIYAuGOKuJHAMuRAIuBAuJILuDILuGHOUuDHOUuBHAMuKOK LONSUMuLAI LONSUMuMIT LONSUM
uPA LONSUMuNA LONSUMuTIL LONSUMuNGOU LONSUMuI LONSUMnVOWEL SIGN ONAPyINAPyANAPyYENAPySOUNAPyUNAP
yCHEINAPyNUNGnCHEIKHEInLUM IYEKnAPUN IYEK>ABF0nDIGIT ZEROtONEtTWOuHREEtFOURuIVEtSIXuEVENtEIGHTtNINE
>D7B0aHANGUL JUNGSEONG O-YEOtO-IrYO-AvEuEOrU-YEOtI-IrYU-AEuOrEU-AuEOvuOrI-YA-OvEuEOvtO-ItYOuUtI
rARAEA-AxE>D7CBiONGSEONG NIEUN-RIEULxCHIEUCHrSSANGTIKEUTâ-PIEUPrTIKEUT-PIEUPySIOSâ-KIYEOKyCIEUC
zHIEUCHyTHIEUTHrRIEUL-SSANGKIYEOKxKIYEOK-HIEUHrSSANGRIEUL-KHIEUKHrRIEUL-MIEUM-HIEUHxPIEUP-TIKEUT
ãPHIEUPHxYESIEUNGzORINHIEUH-HIEUHrKAPYEOUNRIEULrMIEUM-NIEUNxSSANGNIEUNrSSANGMIEUMrMIEUM-PIEUP-SIOS
xCIEUCrPIEUP-TIKEUTxRIEUL-PHIEUPHxMIEUMrSSANGPIEUPrPIEUP-SIOS-TIKEUTxCIEUCyHIEUCHrSIOS-MIEUM
wKAPYEOUNPIEUPsSANGSIOS-KIYEOKáTIKEUTsIOS-PANSIOSwCIEUCxHIEUCHwTHIEUTHwHIEUHrPANSIOS-PIEUP
zKAPYEOUNPIEUPrYESIEUNG-MIEUMàHIEUHrCIEUC-PIEUPxSSANGPIEUPrSSANGCIEUCrPHIEUPH-SIOSzTHIEUTH>FB00
aLATIN SMALL LIGATURE FFwIwLwFIxLvLONG S TvST>FB13aARMENIAN SMALL LIGATURE MEN NOWâECHâINIyVEW NOW
yMEN XEH>FB1DaHEBREW LETTER YOD WITH HIRIQhPOINT JUDEO-SPANISH VARIKAhLIGATURE YIDDISH YOD YOD PATAH
iETTER ALTERNATIVE AYINoWIDE ALEFtDALETtHEtKAFtLAMEDtFINAL MEMtRESHtTAVoALTERNATIVE PLUS SIGN
oSHIN WITH SHIN DOTzIN DOTyDAGESH AND SHIN DOTêIN DOToALEF WITH PATAHyQAMATSyMAPIQoBET WITH DAGESH
oGIMEL WITH DAGESHoDALET WITH DAGESHoHE WITH MAPIQoVAV WITH DAGESHoZAYIN WITH DAGESH>FB38
oTET WITH DAGESHoYOD WITH DAGESHoFINAL KAF WITH DAGESHoKAF WITH DAGESHoLAMED WITH DAGESH>FB3E
oMEM WITH DAGESH>FB40oNUN WITH DAGESHoSAMEKH WITH DAGESH>FB43oFINAL PE WITH DAGESHoPE WITH DAGESH
>FB46oTSADI WITH DAGESHoQOF WITH DAGESHoRESH WITH DAGESHoSHIN WITH DAGESHoTAV WITH DAGESH
oVAV WITH HOLAMoBET WITH RAFEoKAF WITH RAFEoPE WITH RAFEiIGATURE ALEF LAMED
aARABIC LETTER ALEF WASLA ISOLATED FORMzFINAL FORMoBEEH ISOLATED FORMtFINAL FORMtINITIAL FORM
tMEDIAL FORMoPEH ISOLATED FORMsFINAL FORMsINITIAL FORMsMEDIAL FORMoBEHEH ISOLATED FORMuFINAL FORM
uINITIAL FORMuMEDIAL FORMoTTEHEH ISOLATED FORMvFINAL FORMvINITIAL FORMvMEDIAL FORM
pEHEH ISOLATED FORMuFINAL FORMuINITIAL FORMuMEDIAL FORMpTEH ISOLATED FORMtFINAL FORMtINITIAL FORM
tMEDIAL FORMoVEH ISOLATED FORMsFINAL FORMsINITIAL FORMsMEDIAL FORMoPEHEH ISOLATED FORMuFINAL FORM
uINITIAL FORMuMEDIAL FORMoDYEH ISOLATED FORMtFINAL FORMtINITIAL FORMtMEDIAL FORMoNYEH ISOLATED FORM
tFINAL FORMtINITIAL FORMtMEDIAL FORMoTCHEH ISOLATED FORMuFINAL FORMuINITIAL FORMuMEDIAL FORM
tEH ISOLATED FORMwFINAL FORMwINITIAL FORMwMEDIAL FORMoDDAHAL ISOLATED FORMvFINAL FORM
pAHAL ISOLATED FORMuFINAL FORMpUL ISOLATED FORMsFINAL FORMpDAL ISOLATED FORMtFINAL FORM
oJEH ISOLATED FORMsFINAL FORMoRREH ISOLATED FORMtFINAL FORMoKEHEH ISOLATED FORMuFINAL FORM
uINITIAL FORMuMEDIAL FORMoGAF ISOLATED FORMsFINAL FORMsINITIAL FORMsMEDIAL FORMpUEH ISOLATED FORM
tFINAL FORMtINITIAL FORMtMEDIAL FORMoNGOEH ISOLATED FORMuFINAL FORMuINITIAL FORMuMEDIAL FORM
pOON GHUNNA ISOLATED FORMàFINAL FORMoRNOON ISOLATED FORMuFINAL FORMuINITIAL FORMuMEDIAL FORM
oHEH WITH YEH ABOVE ISOLATED FORMçFINAL FORMsGOAL ISOLATED FORMxFINAL FORMxINITIAL FORMxMEDIAL FORM
sDOACHASHMEE ISOLATED FORMäFINAL FORMäINITIAL FORMäMEDIAL FORMoYEH BARREE ISOLATED FORMzFINAL FORM
zWITH HAMZA ABOVE ISOLATED FORMðFINAL FORMhSYMBOL DOT ABOVEsBELOWoTWO DOTS ABOVExBELOW
pHREE DOTS ABOVEzBELOWzPOINTING DOWNWARDS ABOVEòBELOWoFOUR DOTS ABOVEyBELOW
oDOUBLE VERTICAL BAR BELOWoTWO DOTS VERTICALLY ABOVEèBELOWoRINGoSMALL TAH ABOVEyBELOWoWASLA ABOVE
>FBD3hLETTER NG ISOLATED FORMrFINAL FORMrINITIAL FORMrMEDIAL FORMoU ISOLATED FORMqFINAL FORM
oOE ISOLATED FORMrFINAL FORMoYU ISOLATED FORMrFINAL FORMoU WITH HAMZA ABOVE ISOLATED FORM
oVE ISOLATED FORMrFINAL FORMoKIRGHIZ OE ISOLATED FORMzFINAL FORMwYU ISOLATED FORMzFINAL FORM
oE ISOLATED FORMqFINAL FORMqINITIAL FORMqMEDIAL FORMoUIGHUR KAZAKH KIRGHIZ ALEF MAKSURA INITIAL FORM
÷MEDIAL FORMiIGATURE YEH WITH HAMZA ABOVE WITH ALEF ISOLATED FORMõFINAL FORMñE ISOLATED FORM
óFINAL FORMðWAW ISOLATED FORMôFINAL FORMðU ISOLATED FORMòFINAL FORMðOE ISOLATED FORMóFINAL FORM
ðYU ISOLATED FORMóFINAL FORMðE ISOLATED FORMòFINAL FORMòINITIAL FORM
qUIGHUR KIRGHIZ YEH WITH HAMZA ABOVE WITH ALEF MAKSURA ISOLATED FORMÿALEF MAKSURA FINAL FORM
ÿALEF MAKSURA INITIAL FORMiETTER FARSI YEH ISOLATED FORMyFINAL FORMyINITIAL FORMyMEDIAL FORM
iIGATURE YEH WITH HAMZA ABOVE WITH JEEM ISOLATED FORMðHAH ISOLATED FORMðMEEM ISOLATED FORM
ðALEF MAKSURA ISOLATED FORMðYEH ISOLATED FORMqBEH WITH JEEM ISOLATED FORMzHAH ISOLATED FORM
zKHAH ISOLATED FORMzMEEM ISOLATED FORMzALEF MAKSURA ISOLATED FORMzYEH ISOLATED FORM
qTEH WITH JEEM ISOLATED FORMzHAH ISOLATED FORMzKHAH ISOLATED FORMzMEEM ISOLATED FORM
zALEF MAKSURA ISOLATED FORMzYEH ISOLATED FORMrHEH WITH JEEM ISOLATED FORMàMEEM ISOLATED FORM
àALEF MAKSURA ISOLATED FORMàYEH ISOLATED FORMqJEEM WITH HAH ISOLATED FORMàMEEM ISOLATED FORM
qHAH WITH JEEM ISOLATED FORMzMEEM ISOLATED FORMqKHAH WITH JEEM ISOLATED FORMàHAH ISOLATED FORM
àMEEM ISOLATED FORMqSEEN WITH JEEM ISOLATED FORMàHAH ISOLATED FORMàKHAH ISOLATED FORM
àMEEM ISOLATED FORMrAD WITH HAH ISOLATED FORMzMEEM ISOLATED FORMqDAD WITH JEEM ISOLATED FORM
zHAH ISOLATED FORMzKHAH ISOLATED FORMzMEEM ISOLATED FORMqTAH WITH HAH ISOLATED FORM
zMEEM ISOLATED FORMqZAH WITH MEEM ISOLATED FORMqAIN WITH JEEM ISOLATED FORMzMEEM ISOLATED FORM
qGHAIN WITH JEEM ISOLATED FORMáMEEM ISOLATED FORMqFEH WITH JEEM ISOLATED FORMzHAH ISOLATED FORM
zKHAH ISOLATED FORMzMEEM ISOLATED FORMzALEF MAKSURA ISOLATED FORMzYEH ISOLATED FORM
qQAF WITH HAH ISOLATED FORMzMEEM ISOLATED FORMzALEF MAKSURA ISOLATED FORMzYEH ISOLATED FORM
qKAF WITH ALEF ISOLATED FORMzJEEM ISOLATED FORMzHAH ISOLATED FORMzKHAH ISOLATED FORM
zLAM ISOLATED FORMzMEEM ISOLATED FORMzALEF MAKSURA ISOLATED FORMzYEH ISOLATED FORM
qLAM WITH JEEM ISOLATED FORMzHAH ISOLATED FORMzKHAH ISOLATED FORMzMEEM ISOLATED FORM
zALEF MAKSURA ISOLATED FORMzYEH ISOLATED FORMqMEEM WITH JEEM ISOLATED FORMàHAH ISOLATED FORM
àKHAH ISOLATED FORMàMEEM ISOLATED FORMàALEF MAKSURA ISOLATED FORMàYEH ISOLATED FORM
qNOON WITH JEEM ISOLATED FORMàHAH ISOLATED FORMàKHAH ISOLATED FORMàMEEM ISOLATED FORM
àALEF MAKSURA ISOLATED FORMàYEH ISOLATED FORMqHEH WITH JEEM ISOLATED FORMzMEEM ISOLATED FORM
zALEF MAKSURA ISOLATED FORMzYEH ISOLATED FORMqYEH WITH JEEM ISOLATED FORMzHAH ISOLATED FORM
zKHAH ISOLATED FORMzMEEM ISOLATED FORMzALEF MAKSURA ISOLATED FORMzYEH ISOLATED FORM
qTHAL WITH SUPERSCRIPT ALEF ISOLATED FORMqREH WITH SUPERSCRIPT ALEF ISOLATED FORM
qALEF MAKSURA WITH SUPERSCRIPT ALEF ISOLATED FORMqSHADDA WITH DAMMATAN ISOLATED FORM
âKASRATAN ISOLATED FORMâFATHA ISOLATED FORMâDAMMA ISOLATED FORMâKASRA ISOLATED FORM
âSUPERSCRIPT ALEF ISOLATED FORMqYEH WITH HAMZA ABOVE WITH REH FINAL FORMðZAIN FINAL FORM
ðMEEM FINAL FORMðNOON FINAL FORMðALEF MAKSURA FINAL FORMðYEH FINAL FORMqBEH WITH REH FINAL FORM
zZAIN FINAL FORMzMEEM FINAL FORMzNOON FINAL FORMzALEF MAKSURA FINAL FORMzYEH FINAL FORM
qTEH WITH REH FINAL FORMzZAIN FINAL FORMzMEEM FINAL FORMzNOON FINAL FORMzALEF MAKSURA FINAL FORM
zYEH FINAL FORMrHEH WITH REH FINAL FORMàZAIN FINAL FORMàMEEM FINAL FORMàNOON FINAL FORM
àALEF MAKSURA FINAL FORMàYEH FINAL FORMqFEH WITH ALEF MAKSURA FINAL FORMzYEH FINAL FORM
qQAF WITH ALEF MAKSURA FINAL FORMzYEH FINAL FORMqKAF WITH ALEF FINAL FORMzLAM FINAL FORM
zMEEM FINAL FORMzALEF MAKSURA FINAL FORMzYEH FINAL FORMqLAM WITH MEEM FINAL FORM
zALEF MAKSURA FINAL FORMzYEH FINAL FORMqMEEM WITH ALEF FINAL FORMàMEEM FINAL FORM
qNOON WITH REH FINAL FORMàZAIN FINAL FORMàMEEM FINAL FORMàNOON FINAL FORMàALEF MAKSURA FINAL FORM
àYEH FINAL FORMqALEF MAKSURA WITH SUPERSCRIPT ALEF FINAL FORMqYEH WITH REH FINAL FORM
zZAIN FINAL FORMzMEEM FINAL FORMzNOON FINAL FORMzALEF MAKSURA FINAL FORMzYEH FINAL FORM
zHAMZA ABOVE WITH JEEM INITIAL FORMðHAH INITIAL FORMðKHAH INITIAL FORMðMEEM INITIAL FORM
ðHEH INITIAL FORMqBEH WITH JEEM INITIAL FORMzHAH INITIAL FORMzKHAH INITIAL FORMzMEEM INITIAL FORM
zHEH INITIAL FORMqTEH WITH JEEM INITIAL FORMzHAH INITIAL FORMzKHAH INITIAL FORMzMEEM INITIAL FORM
zHEH INITIAL FORMrHEH WITH MEEM INITIAL FORMqJEEM WITH HAH INITIAL FORMàMEEM INITIAL FORM
qHAH WITH JEEM INITIAL FORMzMEEM INITIAL FORMqKHAH WITH JEEM INITIAL FORMàMEEM INITIAL FORM
qSEEN WITH JEEM INITIAL FORMàHAH INITIAL FORMàKHAH INITIAL FORMàMEEM INITIAL FORM
rAD WITH HAH INITIAL FORMzKHAH INITIAL FORMzMEEM INITIAL FORMqDAD WITH JEEM INITIAL FORM
zHAH INITIAL FORMzKHAH INITIAL FORMzMEEM INITIAL FORMqTAH WITH HAH INITIAL FORM
qZAH WITH MEEM INITIAL FORMqAIN WITH JEEM INITIAL FORMzMEEM INITIAL FORM
qGHAIN WITH JEEM INITIAL FORMáMEEM INITIAL FORMqFEH WITH JEEM INITIAL FORMzHAH INITIAL FORM
zKHAH INITIAL FORMzMEEM INITIAL FORMqQAF WITH HAH INITIAL FORMzMEEM INITIAL FORM
qKAF WITH JEEM INITIAL FORMzHAH INITIAL FORMzKHAH INITIAL FORMzLAM INITIAL FORMzMEEM INITIAL FORM
qLAM WITH JEEM INITIAL FORMzHAH INITIAL FORMzKHAH INITIAL FORMzMEEM INITIAL FORMzHEH INITIAL FORM
qMEEM WITH JEEM INITIAL FORMàHAH INITIAL FORMàKHAH INITIAL FORMàMEEM INITIAL FORM
qNOON WITH JEEM INITIAL FORMàHAH INITIAL FORMàKHAH INITIAL FORMàMEEM INITIAL FORMàHEH INITIAL FORM
qHEH WITH JEEM INITIAL FORMzMEEM INITIAL FORMzSUPERSCRIPT ALEF INITIAL FORM
qYEH WITH JEEM INITIAL FORMzHAH INITIAL FORMzKHAH INITIAL FORMzMEEM INITIAL FORMzHEH INITIAL FORM
àAMZA ABOVE WITH MEEM MEDIAL FORMðHEH MEDIAL FORMqBEH WITH MEEM MEDIAL FORMzHEH MEDIAL FORM
qTEH WITH MEEM MEDIAL FORMzHEH MEDIAL FORMrHEH WITH MEEM MEDIAL FORMàHEH MEDIAL FORM
qSEEN WITH MEEM MEDIAL FORMàHEH MEDIAL FORMrHEEN WITH MEEM MEDIAL FORMáHEH MEDIAL FORM
qKAF WITH LAM MEDIAL FORMzMEEM MEDIAL FORMqLAM WITH MEEM MEDIAL FORMqNOON WITH MEEM MEDIAL FORM
àHEH MEDIAL FORMqYEH WITH MEEM MEDIAL FORMzHEH MEDIAL FORMqSHADDA WITH FATHA MEDIAL FORM
âDAMMA MEDIAL FORMâKASRA MEDIAL FORMqTAH WITH ALEF MAKSURA ISOLATED FORMzYEH ISOLATED FORM
qAIN WITH ALEF MAKSURA ISOLATED FORMzYEH ISOLATED FORMqGHAIN WITH ALEF MAKSURA ISOLATED FORM
áYEH ISOLATED FORMqSEEN WITH ALEF MAKSURA ISOLATED FORMàYEH ISOLATED FORM
rHEEN WITH ALEF MAKSURA ISOLATED FORMáYEH ISOLATED FORMqHAH WITH ALEF MAKSURA ISOLATED FORM
zYEH ISOLATED FORMqJEEM WITH ALEF MAKSURA ISOLATED FORMàYEH ISOLATED FORM
qKHAH WITH ALEF MAKSURA ISOLATED FORMàYEH ISOLATED FORMqSAD WITH ALEF MAKSURA ISOLATED FORM
zYEH ISOLATED FORMqDAD WITH ALEF MAKSURA ISOLATED FORMzYEH ISOLATED FORM
qSHEEN WITH JEEM ISOLATED FORMáHAH ISOLATED FORMáKHAH ISOLATED FORMáMEEM ISOLATED FORM
áREH ISOLATED FORMrEEN WITH REH ISOLATED FORMrAD WITH REH ISOLATED FORMqDAD WITH REH ISOLATED FORM
qTAH WITH ALEF MAKSURA FINAL FORMzYEH FINAL FORMqAIN WITH ALEF MAKSURA FINAL FORMzYEH FINAL FORM
qGHAIN WITH ALEF MAKSURA FINAL FORMáYEH FINAL FORMqSEEN WITH ALEF MAKSURA FINAL FORMàYEH FINAL FORM
rHEEN WITH ALEF MAKSURA FINAL FORMáYEH FINAL FORMqHAH WITH ALEF MAKSURA FINAL FORMzYEH FINAL FORM
qJEEM WITH ALEF MAKSURA FINAL FORMàYEH FINAL FORMqKHAH WITH ALEF MAKSURA FINAL FORMàYEH FINAL FORM
qSAD WITH ALEF MAKSURA FINAL FORMzYEH FINAL FORMqDAD WITH ALEF MAKSURA FINAL FORMzYEH FINAL FORM
qSHEEN WITH JEEM FINAL FORMáHAH FINAL FORMáKHAH FINAL FORMáMEEM FINAL FORMáREH FINAL FORM
rEEN WITH REH FINAL FORMrAD WITH REH FINAL FORMqDAD WITH REH FINAL FORMqSHEEN WITH JEEM INITIAL FORM
áHAH INITIAL FORMáKHAH INITIAL FORMáMEEM INITIAL FORMrEEN WITH HEH INITIAL FORM
rHEEN WITH HEH INITIAL FORMqTAH WITH MEEM INITIAL FORMqSEEN WITH JEEM MEDIAL FORMàHAH MEDIAL FORM
àKHAH MEDIAL FORMrHEEN WITH JEEM MEDIAL FORMáHAH MEDIAL FORMáKHAH MEDIAL FORM
qTAH WITH MEEM MEDIAL FORMqZAH WITH MEEM MEDIAL FORMqALEF WITH FATHATAN FINAL FORMéISOLATED FORM
aORNATE LEFT PARENTHESIShRIGHT PARENTHESISaARABIC LIGATURE RAHIMAHU ALLAAHsDI ALLAAHU ANHæAAæUMèAA
çNNAqSALLALLAAHU ALAYHI WA-AALIHqALAYHI AS-SALAAMwM AS-SALAAMxAA AS-SALAAMw AS-SALAATU WAS-SALAAM
qQUDDISA SIRRAHqSALLALLAHU ALAYHI WAAALIHEE WA-SALLAMqALAYHAA AS-SALAAMqTABAARAKA WA-TAAALAA
qRAHIMAHUM ALLAAHqTEH WITH JEEM WITH MEEM INITIAL FORMzHAH WITH JEEM FINAL FORMíINITIAL FORM
èMEEM INITIAL FORMzKHAH WITH MEEM INITIAL FORMzMEEM WITH JEEM INITIAL FORMéHAH INITIAL FORM
éKHAH INITIAL FORMqJEEM WITH MEEM WITH HAH FINAL FORMîINITIAL FORMqHAH WITH MEEM WITH YEH FINAL FORM
éALEF MAKSURA FINAL FORMqSEEN WITH HAH WITH JEEM INITIAL FORMàJEEM WITH HAH INITIAL FORM
êALEF MAKSURA FINAL FORMàMEEM WITH HAH FINAL FORMîINITIAL FORMêJEEM INITIAL FORMêMEEM FINAL FORM
ïINITIAL FORMrAD WITH HAH WITH HAH FINAL FORMìINITIAL FORMzMEEM WITH MEEM FINAL FORM
rHEEN WITH HAH WITH MEEM FINAL FORMïINITIAL FORMáJEEM WITH YEH FINAL FORMáMEEM WITH KHAH FINAL FORM
ðINITIAL FORMëMEEM FINAL FORMðINITIAL FORMqDAD WITH HAH WITH ALEF MAKSURA FINAL FORM
zKHAH WITH MEEM FINAL FORMîINITIAL FORMqTAH WITH MEEM WITH HAH FINAL FORMíINITIAL FORM
éMEEM INITIAL FORMéYEH FINAL FORMqAIN WITH JEEM WITH MEEM FINAL FORMzMEEM WITH MEEM FINAL FORM
îINITIAL FORMéALEF MAKSURA FINAL FORMqGHAIN WITH MEEM WITH MEEM FINAL FORMëYEH FINAL FORM
ëALEF MAKSURA FINAL FORMqFEH WITH KHAH WITH MEEM FINAL FORMîINITIAL FORM
qQAF WITH MEEM WITH HAH FINAL FORMéMEEM FINAL FORMqLAM WITH HAH WITH MEEM FINAL FORMèYEH FINAL FORM
èALEF MAKSURA FINAL FORMzJEEM WITH JEEM INITIAL FORMîFINAL FORMzKHAH WITH MEEM FINAL FORM
îINITIAL FORMzMEEM WITH HAH FINAL FORMíINITIAL FORMqMEEM WITH HAH WITH JEEM INITIAL FORM
éMEEM INITIAL FORMéYEH FINAL FORMàJEEM WITH HAH INITIAL FORMêMEEM INITIAL FORM
àKHAH WITH JEEM INITIAL FORMêMEEM INITIAL FORM>FD92àJEEM WITH KHAH INITIAL FORM
qHEH WITH MEEM WITH JEEM INITIAL FORMéMEEM INITIAL FORMqNOON WITH HAH WITH MEEM INITIAL FORM
éALEF MAKSURA FINAL FORMàJEEM WITH MEEM FINAL FORMïINITIAL FORMêALEF MAKSURA FINAL FORM
àMEEM WITH YEH FINAL FORMêALEF MAKSURA FINAL FORMqYEH WITH MEEM WITH MEEM FINAL FORMîINITIAL FORM
qBEH WITH KHAH WITH YEH FINAL FORMqTEH WITH JEEM WITH YEH FINAL FORMéALEF MAKSURA FINAL FORM
zKHAH WITH YEH FINAL FORMéALEF MAKSURA FINAL FORMzMEEM WITH YEH FINAL FORMéALEF MAKSURA FINAL FORM
qJEEM WITH MEEM WITH YEH FINAL FORMàHAH WITH ALEF MAKSURA FINAL FORM
àMEEM WITH ALEF MAKSURA FINAL FORMqSEEN WITH KHAH WITH ALEF MAKSURA FINAL FORM
rAD WITH HAH WITH YEH FINAL FORMrHEEN WITH HAH WITH YEH FINAL FORMqDAD WITH HAH WITH YEH FINAL FORM
qLAM WITH JEEM WITH YEH FINAL FORMzMEEM WITH YEH FINAL FORMqYEH WITH HAH WITH YEH FINAL FORM
zJEEM WITH YEH FINAL FORMzMEEM WITH YEH FINAL FORMqMEEM WITH MEEM WITH YEH FINAL FORM
qQAF WITH MEEM WITH YEH FINAL FORMqNOON WITH HAH WITH YEH FINAL FORM
qQAF WITH MEEM WITH HAH INITIAL FORMqLAM WITH HAH WITH MEEM INITIAL FORM
qAIN WITH MEEM WITH YEH FINAL FORMqKAF WITH MEEM WITH YEH FINAL FORM
qNOON WITH JEEM WITH HAH INITIAL FORMqMEEM WITH KHAH WITH YEH FINAL FORM
qLAM WITH JEEM WITH MEEM INITIAL FORMqKAF WITH MEEM WITH MEEM FINAL FORM
qLAM WITH JEEM WITH MEEM FINAL FORMqNOON WITH JEEM WITH HAH FINAL FORM
qJEEM WITH HAH WITH YEH FINAL FORMqHAH WITH JEEM WITH YEH FINAL FORM
qMEEM WITH JEEM WITH YEH FINAL FORMqFEH WITH MEEM WITH YEH FINAL FORM
qBEH WITH HAH WITH YEH FINAL FORMqKAF WITH MEEM WITH MEEM INITIAL FORM
qAIN WITH JEEM WITH MEEM INITIAL FORMqSAD WITH MEEM WITH MEEM INITIAL FORM
rEEN WITH KHAH WITH YEH FINAL FORMqNOON WITH JEEM WITH YEH FINAL FORM>FDCFqSALAAMUHU ALAYNAA>FDF0
tLA USED AS KORANIC STOP SIGN ISOLATED FORMqQALA USED AS KORANIC STOP SIGN ISOLATED FORM
qALLAH ISOLATED FORMrKBAR ISOLATED FORMqMOHAMMAD ISOLATED FORMqSALAM ISOLATED FORM
qRASOUL ISOLATED FORMqALAYHE ISOLATED FORMqWASALLAM ISOLATED FORMqSALLA ISOLATED FORM
vLLAHOU ALAYHE WASALLAMqJALLAJALALOUHOUaRIAL SIGNaARABIC LIGATURE BISMILLAH AR-RAHMAN AR-RAHEEM
qSUBHAANAHU WA TAAALAAqAZZA WA JALLaVARIATION SELECTOR-1t2t3t4t5t6t7t8t9t10u1u2u3u4u5u6
aPRESENTATION FORM FOR VERTICAL COMMAåIDEOGRAPHIC COMMAñFULL STOPåCOLONåSEMICOLONåEXCLAMATION MARK
åQUESTION MARKåLEFT WHITE LENTICULAR BRACKETåRIGHT WHITE LENTICULAR BRAKCETåHORIZONTAL ELLIPSIS>FE20
aCOMBINING LIGATURE LEFT HALFtRIGHT HALFkDOUBLE TILDE LEFT HALFxRIGHT HALFkMACRON LEFT HALF
rRIGHT HALFkCONJOINING MACRONkLIGATURE LEFT HALF BELOWtRIGHT HALF BELOWkTILDE LEFT HALF BELOW
qRIGHT HALF BELOWkMACRON LEFT HALF BELOWrRIGHT HALF BELOWkCONJOINING MACRON BELOW
lYRILLIC TITLO LEFT HALFzRIGHT HALFaPRESENTATION FORM FOR VERTICAL TWO DOT LEADERåEM DASHæN DASH
åLOW LINEåWAVY LOW LINEåLEFT PARENTHESISåRIGHT PARENTHESISåLEFT CURLY BRACKETåRIGHT CURLY BRACKET
åLEFT TORTOISE SHELL BRACKETåRIGHT TORTOISE SHELL BRACKETåLEFT BLACK LENTICULAR BRACKET
åRIGHT BLACK LENTICULAR BRACKETåLEFT DOUBLE ANGLE BRACKETåRIGHT DOUBLE ANGLE BRACKET
åLEFT ANGLE BRACKETåRIGHT ANGLE BRACKETåLEFT CORNER BRACKETåRIGHT CORNER BRACKET
åLEFT WHITE CORNER BRACKETåRIGHT WHITE CORNER BRACKETaSESAME DOTaWHITE SESAME DOT
aPRESENTATION FORM FOR VERTICAL LEFT SQUARE BRACKETåRIGHT SQUARE BRACKETaDASHED OVERLINE
aCENTRELINE OVERLINEaWAVY OVERLINEaDOUBLE WAVY OVERLINEbASHED LOW LINEaCENTRELINE LOW LINE
aWAVY LOW LINEaSMALL COMMAgIDEOGRAPHIC COMMAgFULL STOP>FE54gSEMICOLONgCOLONgQUESTION MARK
gEXCLAMATION MARKhM DASHgLEFT PARENTHESISgRIGHT PARENTHESISgLEFT CURLY BRACKETgRIGHT CURLY BRACKET
gLEFT TORTOISE SHELL BRACKETgRIGHT TORTOISE SHELL BRACKETgNUMBER SIGNgAMPERSANDhSTERISKgPLUS SIGN
gHYPHEN-MINUSgLESS-THAN SIGNgGREATER-THAN SIGNgEQUALS SIGN>FE68gREVERSE SOLIDUSgDOLLAR SIGN
gPERCENT SIGNgCOMMERCIAL AT>FE70aARABIC FATHATAN ISOLATED FORMhTATWEEL WITH FATHATAN ABOVE
hDAMMATAN ISOLATED FORMhTAIL FRAGMENThKASRATAN ISOLATED FORM>FE76hFATHA ISOLATED FORMnMEDIAL FORM
hDAMMA ISOLATED FORMnMEDIAL FORMhKASRA ISOLATED FORMnMEDIAL FORMhSHADDA ISOLATED FORMoMEDIAL FORM
iUKUN ISOLATED FORMnMEDIAL FORMhLETTER HAMZA ISOLATED FORMoALEF WITH MADDA ABOVE ISOLATED FORM
êFINAL FORMyHAMZA ABOVE ISOLATED FORMêFINAL FORMoWAW WITH HAMZA ABOVE ISOLATED FORMéFINAL FORM
oALEF WITH HAMZA BELOW ISOLATED FORMêFINAL FORMoYEH WITH HAMZA ABOVE ISOLATED FORMéFINAL FORM
éINITIAL FORMéMEDIAL FORMoALEF ISOLATED FORMtFINAL FORMoBEH ISOLATED FORMsFINAL FORMsINITIAL FORM
sMEDIAL FORMoTEH MARBUTA ISOLATED FORMàFINAL FORMsISOLATED FORMsFINAL FORMsINITIAL FORMsMEDIAL FORM
pHEH ISOLATED FORMtFINAL FORMtINITIAL FORMtMEDIAL FORMoJEEM ISOLATED FORMtFINAL FORMtINITIAL FORM
tMEDIAL FORMoHAH ISOLATED FORMsFINAL FORMsINITIAL FORMsMEDIAL FORMoKHAH ISOLATED FORMtFINAL FORM
tINITIAL FORMtMEDIAL FORMoDAL ISOLATED FORMsFINAL FORMoTHAL ISOLATED FORMtFINAL FORM
oREH ISOLATED FORMsFINAL FORMoZAIN ISOLATED FORMtFINAL FORMoSEEN ISOLATED FORMtFINAL FORM
tINITIAL FORMtMEDIAL FORMpHEEN ISOLATED FORMuFINAL FORMuINITIAL FORMuMEDIAL FORMpAD ISOLATED FORM
sFINAL FORMsINITIAL FORMsMEDIAL FORMoDAD ISOLATED FORMsFINAL FORMsINITIAL FORMsMEDIAL FORM
oTAH ISOLATED FORMsFINAL FORMsINITIAL FORMsMEDIAL FORMoZAH ISOLATED FORMsFINAL FORMsINITIAL FORM
sMEDIAL FORMoAIN ISOLATED FORMsFINAL FORMsINITIAL FORMsMEDIAL FORMoGHAIN ISOLATED FORMuFINAL FORM
uINITIAL FORMuMEDIAL FORMoFEH ISOLATED FORMsFINAL FORMsINITIAL FORMsMEDIAL FORMoQAF ISOLATED FORM
sFINAL FORMsINITIAL FORMsMEDIAL FORMoKAF ISOLATED FORMsFINAL FORMsINITIAL FORMsMEDIAL FORM
oLAM ISOLATED FORMsFINAL FORMsINITIAL FORMsMEDIAL FORMoMEEM ISOLATED FORMtFINAL FORMtINITIAL FORM
tMEDIAL FORMoNOON ISOLATED FORMtFINAL FORMtINITIAL FORMtMEDIAL FORMoHEH ISOLATED FORMsFINAL FORM
sINITIAL FORMsMEDIAL FORMoWAW ISOLATED FORMsFINAL FORMoALEF MAKSURA ISOLATED FORMáFINAL FORM
oYEH ISOLATED FORMsFINAL FORMsINITIAL FORMsMEDIAL FORM
iIGATURE LAM WITH ALEF WITH MADDA ABOVE ISOLATED FORMõFINAL FORMéHAMZA ABOVE ISOLATED FORM
õFINAL FORMïBELOW ISOLATED FORMõFINAL FORMäISOLATED FORMäFINAL FORM>FEFFaZERO WIDTH NO-BREAK SPACE
>FF01aFULLWIDTH EXCLAMATION MARKkQUOTATION MARKkNUMBER SIGNkDOLLAR SIGNkPERCENT SIGNkAMPERSAND
lPOSTROPHEkLEFT PARENTHESISkRIGHT PARENTHESISkASTERISKkPLUS SIGNkCOMMAkHYPHEN-MINUSkFULL STOP
kSOLIDUSkDIGIT ZEROqONEqTWOrHREEqFOURrIVEqSIXrEVENqEIGHTqNINEkCOLONkSEMICOLONkLESS-THAN SIGN
kEQUALS SIGNkGREATER-THAN SIGNkQUESTION MARKkCOMMERCIAL ATkLATIN CAPITAL LETTER AåBåCåDåEåFåGåHåIåJ
åKåLåMåNåOåPåQåRåSåTåUåVåWåXåYåZlEFT SQUARE BRACKETkREVERSE SOLIDUSlIGHT SQUARE BRACKET
kCIRCUMFLEX ACCENTkLOW LINEkGRAVE ACCENTkLATIN SMALL LETTER AãBãCãDãEãFãGãHãIãJãKãLãMãNãOãPãQãRãSãT
ãUãVãWãXãYãZlEFT CURLY BRACKETkVERTICAL LINEkRIGHT CURLY BRACKETkTILDEkLEFT WHITE PARENTHESIS
kRIGHT WHITE PARENTHESISaHALFWIDTH IDEOGRAPHIC FULL STOPkLEFT CORNER BRACKETkRIGHT CORNER BRACKET
kIDEOGRAPHIC COMMAkKATAKANA MIDDLE DOTtLETTER WOàSMALL AæIæUæEæOæYAçUçOæTU
s-HIRAGANA PROLONGED SOUND MARKs LETTER AàIàUàEàOàKAáIáUáEáOàSAáIáUáEáOàTAáIáUáEáOàNAáIáUáEáOàHAáIáU
áEáOàMAáIáUáEáOàYAáUáOàRAáIáUáEáOàWAàNtVOICED SOUND MARKtSEMI-VOICED SOUND MARKkHANGUL FILLER
rLETTER KIYEOKySSANGKIYEOKyKIYEOK-SIOSyNIEUNã-CIEUCäHIEUHyTIKEUTySSANGTIKEUTyRIEULã-KIYEOKäMIEUM
äPIEUPäSIOSäTHIEUTHäPHIEUPHäHIEUHyMIEUMyPIEUPySSANGPIEUPyPIEUP-SIOSySIOSzSANGSIOSyIEUNGyCIEUC
ySSANGCIEUCyCHIEUCHyKHIEUKHyTHIEUTHyPHIEUPHyHIEUH>FFC2yAzEyYAàEyEOz>FFCAyYEOàyOyWAàEyOE>FFD2yYOyU
yWEOàzIyYU>FFDAyEUyYIyI>FFE0aFULLWIDTH CENT SIGNkPOUND SIGNkNOT SIGNkMACRONkBROKEN BARkYEN SIGN
kWON SIGN>FFE8aHALFWIDTH FORMS LIGHT VERTICALkLEFTWARDS ARROWkUPWARDS ARROWkRIGHTWARDS ARROW
kDOWNWARDS ARROWkBLACK SQUAREkWHITE CIRCLE>FFF9aINTERLINEAR ANNOTATION ANCHORxSEPARATORxTERMINATOR
aOBJECT REPLACEMENT CHARACTERaREPLACEMENT CHARACTER
"

/-! ### Styles -/

def styles : String := "
>1D000aBYZANTINE MUSICAL SYMBOL PSILIzDASEIAzPERISPOMENIzOXEIA EKFONITIKONåDIPLIzVAREIA EKFONITIKON
æDIPLIzKATHISTIzSYRMATIKIzPARAKLITIKIzYPOKRISISè DIPLIzKREMASTIzAPESO EKFONITIKONzEXO EKFONITIKON
zTELEIAzKENTIMATAzAPOSTROFOSé DIPLIzSYNEVMAzTHITAzOLIGON ARCHAIONzGORGON ARCHAIONzPSILONzCHAMILON
zVATHYzISON ARCHAIONzKENTIMA ARCHAIONæTA ARCHAIONzSAXIMATAzPARICHONzSTAVROS APODEXIAzOXEIAI ARCHAION
zVAREIAI ARCHAIONzAPODERMA ARCHAIONâTHEMAzKLASMAzREVMAzPIASMA ARCHAIONzTINAGMAzANATRICHISMAzSEISMA
àYNAGMA ARCHAIONçMETA STAVROUzOYRANISMA ARCHAIONzTHEMAzLEMOIzDYOzTRIAàESSERAzKRATIMATAzAPESO EXO NEO
zFTHORA ARCHAIONzIMIFTHORAzTROMIKON ARCHAIONzKATAVA TROMIKONzPELASTONàSIFISTONzKONTEVMA
zCHOREVMA ARCHAIONzRAPISMAzPARAKALESMA ARCHAIONäLITIKI ARCHAIONzICHADINzNANAzPETASMAzKONTEVMA ALLO
zTROMIKON ALLOzSTRAGGISMATAzGRONTHISMATAzISON NEOzOLIGON NEOàXEIA NEOzPETASTIzKOUFISMA
zPETASTOKOUFISMAzKRATIMOKOUFISMAzPELASTON NEOzKENTIMATA NEO ANOæ NEO ANOzYPSILIzAPOSTROFOS NEO
èI SYNDESMOS NEOzYPORROIzKRATIMOYPORROONzELAFRONzCHAMILIzMIKRON ISONzVAREIA NEOzPIASMA NEO
àSIFISTON NEOzOMALONzANTIKENOMAzLYGISMAzPARAKLITIKI NEOäALESMA NEOzETERON PARAKALESMAzKYLISMA
zANTIKENOKYLISMAzTROMIKON NEOzEKSTREPTONzSYNAGMA NEOáRMAzCHOREVMA NEOzEPEGERMAzSEISMA NEO
zXIRON KLASMAzTROMIKOPSIFISTONzPSIFISTOLYGISMAzTROMIKOLYGISMAæPARAKALESMAzPSIFISTOPARAKALESMA
zTROMIKOSYNAGMAzPSIFISTOSYNAGMAzGORGOSYNTHETONzARGOSYNTHETONzETERON ARGOSYNTHETONzOYRANISMA NEO
zTHEMATISMOS ESOìXOä APLOUNâS KAI APOTHESzKATAVASMAzENDOFONONzYFEN KATOäANOzSTAVROSzKLASMA ANO
zDIPLI ARCHAIONzKRATIMA ARCHAIONèLLOçNEOzAPODERMA NEOáLIzDIPLIzTRIPLIàETRAPLIzKORONIS
zLEIMMA ENOS CHRONOUæDYO CHRONONæTRION CHRONONçESSARON CHRONONæIMISEOS CHRONOUzGORGON NEO ANO
æPARESTIGMENON ARISTERAôDEXIAzDIGORGONç PARESTIGMENON ARISTERA KATOÿANOöDEXIAzTRIGORGONzARGON
zIMIDIARGONzDIARGONzAGOGI POLI ARGIåARGOTERIèIåMETRIAçSIåGORGIéOTERIåPOLI GORGI
zMARTYRIA PROTOS ICHOSèALLI PROTOS ICHOSèDEYTEROS ICHOSèALLI DEYTEROS ICHOSèTRITOS ICHOSëFONIAS
éETARTOS ICHOSñLEGETOS ICHOSèLEGETOS ICHOSèPLAGIOS ICHOSzISAKIA TELOUS ICHIMATOS
zAPOSTROFOI TELOUS ICHIMATOSzFANEROSIS TETRAFONIASéMONOFONIASéDIFONIASzMARTYRIA VARYS ICHOS
èPROTOVARYS ICHOSéLAGIOS TETARTOS ICHOSzGORTHMIKON N APLOUNìDIPLOUNzENARXIS KAI FTHORA VOUzIMIFONON
ãTHORONzFTHORA ARCHAION DEYTEROU ICHOUæDIATONIKI PAðNANAæNAOS ICHOSæDIATONIKI DIæSKLIRON DIATONON DI
æDIATONIKI KEðZOðNI KATOóANOæMALAKON CHROMA DIFONIASõMONOFONIASàHTORA SKLIRON CHROMA VASIS
àTHORA SKLIRON CHROMA SYNAFIæNENANOzCHROA ZYGOSåKLITONåSPATHIzFTHORA I YFESIS TETARTIMORION
æENARMONIOS ANTIFONIAzYFESIS TRITIMORIONzDIESIS TRITIMORIONçETARTIMORIONæAPLI DYO DODEKATA
æMONOGRAMMOS TESSERA DODEKATAæDIGRAMMOS EX DODEKATAæTRIGRAMMOS OKTO DODEKATA
zYFESIS APLI DYO DODEKATAæMONOGRAMMOS TESSERA DODEKATAæDIGRAMMOS EX DODEKATA
æTRIGRAMMOS OKTO DODEKATAzGENIKI DIESISæYFESISzDIASTOLI APLI MIKRIîEGALIèDIPLIèTHESEOS
zSIMANSIS THESEOSï DISIMOUðTRISIMOUñETRASIMOUèARSEOSî DISIMOUïTRISIMOUðETRASIMOUzDIGRAMMA GG
áFTOGGOS OUzSTIGMAzARKTIKO PAçVOUçGAçDIçKEçZOçNIzKENTIMATA NEO MESOæ NEO MESOæTA NEO KATOæ NEO KATO
àLASMA KATOzGORGON NEO KATO>1D100aMUSICAL SYMBOL SINGLE BARLINEpDOUBLE BARLINEpFINAL BARLINE
pREVERSE FINAL BARLINEpDASHED BARLINEpSHORT BARLINEpLEFT REPEAT SIGNpRIGHT REPEAT SIGNqEPEAT DOTS
pDAL SEGNOr CAPOpSEGNOpCODApREPEATED FIGURE-1å2å3pFERMATAw BELOWpBREATH MARKpCAESURApBRACEtKET
pONE-LINE STAFFpTWO-LINE STAFFqHREE-LINE STAFFpFOUR-LINE STAFFqIVE-LINE STAFFpSIX-LINE STAFF
tSTRING FRETBOARDpFOUR-STRING FRETBOARDpG CLEFv OTTAVA ALTAãBASSApC CLEFpF CLEFv OTTAVA ALTAãBASSA
pDRUM CLEF-1z2>1D129pMULTIPLE MEASURE RESTpDOUBLE SHARPwFLATpFLAT UPuDOWNpNATURAL UPxDOWNpSHARP UP
vDOWNpQUARTER TONE SHARPâFLATpCOMMON TIMEqUT TIMEpOTTAVA ALTAwBASSApQUINDICESIMA ALTAâBASSA
pMULTI RESTpWHOLE RESTpHALF RESTpQUARTER RESTpEIGHTH RESTpSIXTEENTH RESTpTHIRTY-SECOND REST
pSIXTY-FOURTH RESTpONE HUNDRED TWENTY-EIGHTH RESTpX NOTEHEADpPLUS NOTEHEADpCIRCLE X NOTEHEAD
pSQUARE NOTEHEAD WHITEåBLACKpTRIANGLE NOTEHEAD UP WHITEêBLACKçLEFT WHITEìBLACKçRIGHT WHITEíBLACK
çDOWN WHITEìBLACKçUP RIGHT WHITEðBLACKpMOON NOTEHEAD WHITEãBLACKpTRIANGLE-ROUND NOTEHEAD DOWN WHITE
òBLACKpPARENTHESIS NOTEHEADpVOID NOTEHEADpNOTEHEAD BLACKqULL NOTEHEADpCLUSTER NOTEHEAD WHITEæBLACK
pBREVEpWHOLE NOTEpHALF NOTEpQUARTER NOTEpEIGHTH NOTEpSIXTEENTH NOTEpTHIRTY-SECOND NOTE
pSIXTY-FOURTH NOTEpONE HUNDRED TWENTY-EIGHTH NOTEpCOMBINING STEMàPRECHGESANG STEMzTREMOLO-1ç2ç3
pFINGERED TREMOLO-1æ2æ3pCOMBINING AUGMENTATION DOTzFLAG-1ä2ä3ä4ä5pBEGIN BEAMpEND BEAMpBEGIN TIE
pEND TIEpBEGIN SLURpEND SLURpBEGIN PHRASEpEND PHRASEpCOMBINING ACCENTzSTACCATOzTENUTOzSTACCATISSIMO
zMARCATOæ-STACCATOzACCENT-STACCATOzLOUREpARPEGGIATO UPàDOWNpCOMBINING DOITzRIPzFLIPzSMEARzBEND
zDOUBLE TONGUEzTRIPLE TONGUEpRINFORZANDOpSUBITOpZpPIANOpMEZZOpFORTEpCRESCENDOpDECRESCENDO
pGRACE NOTE SLASHàNO SLASHpTRqURNpINVERTED TURNpTURN SLASHuUPpORNAMENT STROKE-1å2å3å4å5å6å7å8å9å10æ1
pHAUPTSTIMMEpNEBENSTIMMEpEND OF STIMMEpDEGREE SLASHpCOMBINING DOWN BOWzUP BOWzHARMONIC
zSNAP PIZZICATOpPEDAL MARKvUP MARKpHALF PEDAL MARKpGLISSANDO UPzDOWNpWITH FINGERNAILSpDAMPt ALL
pMAXIMApLONGApBREVISpSEMIBREVIS WHITEàBLACKpMINIMAv BLACKpSEMIMINIMA WHITEàBLACKpFUSA WHITEuBLACK
pLONGA PERFECTA RESTvIMPERFECTA RESTpBREVIS RESTpSEMIBREVIS RESTpMINIMA RESTpSEMIMINIMA REST
pTEMPUS PERFECTUM CUM PROLATIONE PERFECTAõIMPERFECTAõPERFECTA DIMINUTION-1
wIMPERFECTUM CUM PROLATIONE PERFECTA÷IMPERFECTAÿTA DIMINUTION-1ÿTA DIMINUTION-2ÿTA DIMINUTION-3
pCROIXpGREGORIAN C CLEFzF CLEFpSQUARE BpVIRGApPODATUSpCLIVISpSCANDICUSpCLIMACUSpTORCULUSpPORRECTUS
y FLEXUSpSCANDICUS FLEXUSpTORCULUS RESUPINUSpPES SUBPUNCTISpKIEVAN C CLEFwEND OF PIECEwFINAL NOTE
wRECITATIVE MARKwWHOLE NOTEwHALF NOTEwQUARTER NOTE STEM DOWNîUPwEIGHTH NOTE STEM DOWNíUPwFLAT SIGN
pSORIpKORON>1D200aGREEK VOCAL NOTATION SYMBOL-1â2â3â4â5â6â7â8â9â10ã1ã2ã3ã4ã5ã6ã7ã8ã9â20ã1ã2ã3ã4â50ã1
ã2ã3ã4gINSTRUMENTAL NOTATION SYMBOL-1é2é4é5é7é8é11ê2ê3ê4ê7ê8ê9é23ê4ê5ê6ê7ê9é30ê2ê6ê7ê8ê9é40ê2ê3ê5ê7
ê8ê9é50ê1ê2ê3ê4aCOMBINING GREEK MUSICAL TRISEMEzETRASEMEyPENTASEMEaGREEK MUSICAL LEIMMA>1D2E0
aMAYAN NUMERAL ZEROoONEoTWOpHREEoFOURpIVEoSIXpEVENoEIGHToNINEoTENoELEVENoTWELVEpHIRTEENoFOURTEEN
pIFTEENoSIXTEENpEVENTEENoEIGHTEENoNINETEEN>1D300bONOGRAM FOR EARTHaDIGRAM FOR HEAVENLY EARTH
mUMAN EARTHlEARTHLY HEAVENuUMANqaTETRAGRAM FOR CENTREoFULL CIRCLEoMIREDoBARRIERoKEEPING SMALL
oCONTRARIETYoASCENToOPPOSITIONoBRANCHING OUToDEFECTIVENESS OR DISTORTIONpIVERGENCEoYOUTHFULNESS
oINCREASEoPENETRATIONoREACHoCONTACToHOLDING BACKoWAITINGoFOLLOWINGoADVANCEoRELEASEqSISTANCEoEASEoJOY
oCONTENTIONoENDEAVOURoDUTIESoCHANGEoDECISIVENESSoBOLD RESOLUTIONoPACKINGoLEGIONoCLOSENESSoKINSHIP
oGATHERINGoSTRENGTHoPURITYoFULLNESSoRESIDENCEoLAW OR MODELoRESPONSEoGOING TO MEEToENCOUNTERSoSTOVE
oGREATNESSoENLARGEMENToPATTERNoRITUALoFLIGHToVASTNESS OR WASTINGoCONSTANCYoMEASUREoETERNITYoUNITY
oDIMINISHMENToCLOSED MOUTHoGUARDEDNESSpATHERING INoMASSINGoACCUMULATIONoEMBELLISHMENToDOUBToWATCH
oSINKINGoINNERoDEPARTUREpARKENINGpIMMINGoEXHAUSTIONoSEVERANCEpTOPPAGEoHARDNESSoCOMPLETIONpLOSURE
oFAILUREoAGGRAVATIONoCOMPLIANCEoON THE VERGEoDIFFICULTIESoLABOURINGoFOSTERING>1D360
aCOUNTING ROD UNIT DIGIT ONEyTWOzHREEyFOURzIVEySIXzEVENyEIGHTyNINEnTENS DIGIT ONEyTWOzHREEyFOURzIVE
ySIXzEVENyEIGHTyNINEaIDEOGRAPHIC TALLY MARK ONExTWOyHREExFOURyIVEaTALLY MARK ONElFIVE>1D400
aMATHEMATICAL BOLD CAPITAL AàBàCàDàEàFàGàHàIàJàKàLàMàNàOàPàQàRàSàTàUàVàWàXàYàZsSMALL AyByCyDyEyFyGyH
yIyJyKyLyMyNyOyPyQyRySyTyUyVyWyXyYyZnITALIC CAPITAL AâBâCâDâEâFâGâHâIâJâKâLâMâNâOâPâQâRâSâTâUâVâWâX
âYâZuSMALL AàBàCàDàEàFàG>1D456àIàJàKàLàMàNàOàPàQàRàSàTàUàVàWàXàYàZnBOLD ITALIC CAPITAL AçBçCçDçEçFçG
çHçIçJçKçLçMçNçOçPçQçRçSçTçUçVçWçXçYçZzSMALL AåBåCåDåEåFåGåHåIåJåKåLåMåNåOåPåQåRåSåTåUåVåWåXåYåZ
nSCRIPT CAPITAL A>1D49EâCâD>1D4A2âG>1D4A5âJâK>1D4A9âNâOâPâQ>1D4AEâSâTâUâVâWâXâYâZuSMALL AàBàCàD
>1D4BBàF>1D4BDàHàIàJàKàLàMàN>1D4C5àPàQàRàSàTàUàVàWàXàYàZnBOLD SCRIPT CAPITAL AçBçCçDçEçFçGçHçIçJçKçL
çMçNçOçPçQçRçSçTçUçVçWçXçYçZzSMALL AåBåCåDåEåFåGåHåIåJåKåLåMåNåOåPåQåRåSåTåUåVåWåXåYåZ
nFRAKTUR CAPITAL AãB>1D507ãDãEãFãG>1D50DãJãKãLãMãNãOãPãQ>1D516ãSãTãUãVãWãXãY>1D51EvSMALL AáBáCáDáEáF
áGáHáIáJáKáLáMáNáOáPáQáRáSáTáUáVáWáXáYáZnDOUBLE-STRUCK CAPITAL AéB>1D53BéDéEéFéG>1D540éIéJéKéLéM
>1D546éO>1D54AéSéTéUéVéWéXéY>1D552áSMALL AçBçCçDçEçFçGçHçIçJçKçLçMçNçOçPçQçRçSçTçUçVçWçXçYçZ
nBOLD FRAKTUR CAPITAL AèBèCèDèEèFèGèHèIèJèKèLèMèNèOèPèQèRèSèTèUèVèWèXèYèZàSMALL AæBæCæDæEæFæGæHæIæJ
æKæLæMæNæOæPæQæRæSæTæUæVæWæXæYæZnSANS-SERIF CAPITAL AæBæCæDæEæFæGæHæIæJæKæLæMæNæOæPæQæRæSæTæUæVæWæX
æYæZySMALL AäBäCäDäEäFäGäHäIäJäKäLäMäNäOäPäQäRäSäTäUäVäWäXäYäZyBOLD CAPITAL AëBëCëDëEëFëGëHëIëJëKëL
ëMëNëOëPëQëRëSëTëUëVëWëXëYëZãSMALL AéBéCéDéEéFéGéHéIéJéKéLéMéNéOéPéQéRéSéTéUéVéWéXéYéZ
yITALIC CAPITAL AíBíCíDíEíFíGíHíIíJíKíLíMíNíOíPíQíRíSíTíUíVíWíXíYíZåSMALL AëBëCëDëEëFëGëHëIëJëKëLëM
ëNëOëPëQëRëSëTëUëVëWëXëYëZyBOLD ITALIC CAPITAL AòBòCòDòEòFòGòHòIòJòKòLòMòNòOòPòQòRòSòTòUòVòWòXòYòZ
êSMALL AðBðCðDðEðFðGðHðIðJðKðLðMðNðOðPðQðRðSðTðUðVðWðXðYðZnMONOSPACE CAPITAL AåBåCåDåEåFåGåHåIåJåKåL
åMåNåOåPåQåRåSåTåUåVåWåXåYåZxSMALL AãBãCãDãEãFãGãHãIãJãKãLãMãNãOãPãQãRãSãTãUãVãWãXãYãZ
nITALIC SMALL DOTLESS IèJ>1D6A8nBOLD CAPITAL ALPHAàBETAàGAMMAàDELTAàEPSILONàZETAàETAàTHETAàIOTA
àKAPPAàLAMDAàMUàNUàXIàOMICRONàPIàRHOàTHETA SYMBOLàSIGMAàTAUàUPSILONàPHIàCHIàPSIàOMEGAsNABLA
sSMALL ALPHAyBETAyGAMMAyDELTAyEPSILONyZETAyETAyTHETAyIOTAyKAPPAyLAMDAyMUyNUyXIyOMICRONyPIyRHO
yFINAL SIGMAySIGMAyTAUyUPSILONyPHIyCHIyPSIyOMEGAsPARTIAL DIFFERENTIALsEPSILON SYMBOLsTHETA SYMBOL
sKAPPA SYMBOLsPHI SYMBOLsRHO SYMBOLsPI SYMBOLnITALIC CAPITAL ALPHAâBETAâGAMMAâDELTAâEPSILONâZETAâETA
âTHETAâIOTAâKAPPAâLAMDAâMUâNUâXIâOMICRONâPIâRHOâTHETA SYMBOLâSIGMAâTAUâUPSILONâPHIâCHIâPSIâOMEGA
uNABLAuSMALL ALPHAàBETAàGAMMAàDELTAàEPSILONàZETAàETAàTHETAàIOTAàKAPPAàLAMDAàMUàNUàXIàOMICRONàPIàRHO
àFINAL SIGMAàSIGMAàTAUàUPSILONàPHIàCHIàPSIàOMEGAuPARTIAL DIFFERENTIALuEPSILON SYMBOLuTHETA SYMBOL
uKAPPA SYMBOLuPHI SYMBOLuRHO SYMBOLuPI SYMBOLnBOLD ITALIC CAPITAL ALPHAçBETAçGAMMAçDELTAçEPSILON
çZETAçETAçTHETAçIOTAçKAPPAçLAMDAçMUçNUçXIçOMICRONçPIçRHOçTHETA SYMBOLçSIGMAçTAUçUPSILONçPHIçCHIçPSI
çOMEGAzNABLAzSMALL ALPHAåBETAåGAMMAåDELTAåEPSILONåZETAåETAåTHETAåIOTAåKAPPAåLAMDAåMUåNUåXIåOMICRON
åPIåRHOåFINAL SIGMAåSIGMAåTAUåUPSILONåPHIåCHIåPSIåOMEGAzPARTIAL DIFFERENTIALzEPSILON SYMBOL
zTHETA SYMBOLzKAPPA SYMBOLzPHI SYMBOLzRHO SYMBOLzPI SYMBOLnSANS-SERIF BOLD CAPITAL ALPHAëBETAëGAMMA
ëDELTAëEPSILONëZETAëETAëTHETAëIOTAëKAPPAëLAMDAëMUëNUëXIëOMICRONëPIëRHOëTHETA SYMBOLëSIGMAëTAU
ëUPSILONëPHIëCHIëPSIëOMEGAãNABLAãSMALL ALPHAéBETAéGAMMAéDELTAéEPSILONéZETAéETAéTHETAéIOTAéKAPPA
éLAMDAéMUéNUéXIéOMICRONéPIéRHOéFINAL SIGMAéSIGMAéTAUéUPSILONéPHIéCHIéPSIéOMEGAãPARTIAL DIFFERENTIAL
ãEPSILON SYMBOLãTHETA SYMBOLãKAPPA SYMBOLãPHI SYMBOLãRHO SYMBOLãPI SYMBOLãITALIC CAPITAL ALPHAòBETA
òGAMMAòDELTAòEPSILONòZETAòETAòTHETAòIOTAòKAPPAòLAMDAòMUòNUòXIòOMICRONòPIòRHOòTHETA SYMBOLòSIGMAòTAU
òUPSILONòPHIòCHIòPSIòOMEGAêNABLAêSMALL ALPHAðBETAðGAMMAðDELTAðEPSILONðZETAðETAðTHETAðIOTAðKAPPA
ðLAMDAðMUðNUðXIðOMICRONðPIðRHOðFINAL SIGMAðSIGMAðTAUðUPSILONðPHIðCHIðPSIðOMEGAêPARTIAL DIFFERENTIAL
êEPSILON SYMBOLêTHETA SYMBOLêKAPPA SYMBOLêPHI SYMBOLêRHO SYMBOLêPI SYMBOLnBOLD CAPITAL DIGAMMA
sSMALL DIGAMMA>1D7CEsDIGIT ZEROyONEyTWOzHREEyFOURzIVEySIXzEVENyEIGHTyNINEnDOUBLE-STRUCK DIGIT ZERO
çONEçTWOèHREEçFOURèIVEçSIXèEVENçEIGHTçNINEnSANS-SERIF DIGIT ZEROäONEäTWOåHREEäFOURåIVEäSIXåEVEN
äEIGHTäNINEyBOLD DIGIT ZEROéONEéTWOêHREEéFOURêIVEéSIXêEVENéEIGHTéNINEnMONOSPACE DIGIT ZEROãONEãTWO
äHREEãFOURäIVEãSIXäEVENãEIGHTãNINEaSIGNWRITING HAND-FIST INDEXrCIRCLE INDEXsUP INDEXrOVAL INDEX
rHINGE INDEXrANGLE INDEXrFIST INDEX BENTrCIRCLE INDEX BENTrFIST THUMB UNDER INDEX BENT
wINDEX RAISED KNUCKLEâCUPPEDâHINGEDè LOWrCIRCLE INDEX HINGErFIST INDEX MIDDLErCIRCLE INDEX MIDDLE
rFIST INDEX MIDDLE BENTéRAISED KNUCKLESéHINGEDâUP MIDDLE HINGEDâHINGED MIDDLE UPâMIDDLE CONJOINED
ò INDEX BENTóMIDDLE BENTóCUPPEDóHINGEDêROSSEDrCIRCLE INDEX MIDDLE CROSSED
rFIST MIDDLE BENT OVER INDEXwINDEX BENT OVER MIDDLEâMIDDLE THUMBrCIRCLE INDEX MIDDLE THUMB
rFIST INDEX MIDDLE STRAIGHT THUMB BENTéBENT THUMB STRAIGHTéTHUMB BENTéHINGED SPREAD THUMB SIDE
âUP MIDDLE HINGED THUMB SIDEùCONJOINEDâHINGED MIDDLE UP THUMB SIDEâMIDDLE UP SPREAD THUMB FORWARD
éTHUMB CUPPEDðIRCLEDïHOOKEDðINGEDwTHUMB BETWEEN INDEX MIDDLE STRAIGHT
wINDEX MIDDLE CONJOINED THUMB SIDEý CONJOINEDþBENTwMIDDLE THUMB HOOKED INDEX UP
wINDEX THUMB HOOKED MIDDLE UPâMIDDLE CONJOINED HINGED THUMB SIDEêROSSED THUMB SIDE
êONJOINED THUMB FORWARDóCUPPED THUMB FORWARDwMIDDLE THUMB CUPPED INDEX UP
wINDEX THUMB CUPPED MIDDLE UPwMIDDLE THUMB CIRCLED INDEX UP÷HINGEDwINDEX THUMB ANGLED OUT MIDDLE UP
ïIN MIDDLE UPèCIRCLED MIDDLE UPâMIDDLE THUMB CONJOINED HINGEDïANGLED OUTõ
wMIDDLE THUMB ANGLED OUT INDEX UPúCROSSEDðINDEX UPwINDEX THUMB HOOKED MIDDLE HINGEDsLAT FOUR FINGERS
è BENTéHINGEDéCONJOINEDò SPLITrCLAW FOUR FINGERS CONJOINEDrFIST FOUR FINGERS CONJOINED BENT
rHINGE FOUR FINGERS CONJOINEDrFLAT FIVE FINGERS SPREADwHEEL FIVE FINGERS SPREAD
wFIVE FINGERS SPREAD FOUR BENTwHEEL FIVE FINGERS SPREAD FOUR BENTwFIVE FINGERS SPREAD BENT
wHEEL FIVE FINGERS SPREAD BENTwFIVE FINGERS SPREAD THUMB FORWARDrCUP FIVE FINGERS SPREADî OPEN
rHINGE FIVE FINGERS SPREAD OPENrOVAL FIVE FINGERS SPREADrFLAT FIVE FINGERS SPREAD HINGEDö THUMB SIDE
÷NO THUMBvv BETWEEN PALM FACINGSwHEELwTHUMB SIDEwHEEL THUMB SIDEwTHUMB BENTâFORWARD
wSPLIT INDEX THUMB SIDEâCENTREè THUMB SIDEó BENTâLITTLErCLAWv THUMB SIDEwNO THUMBwTHUMB FORWARD
rHOOK CURLICUEvrCUP OPENuu OPEN THUMB SIDEvTHUMB SIDEvOPEN NO THUMBvNO THUMBvOPEN THUMB FORWARD
vTHUMB FORWARDtRLICUE OPENzsIRCLErOVALv THUMB SIDEwNO THUMBwTHUMB FORWARDrHINGE OPENá THUMB FORWARDw
w SMALLxOPEN THUMB SIDExTHUMB SIDExOPEN NO THUMBxNO THUMBxTHUMB SIDE TOUCHING INDEX
ãBETWEEN MIDDLE RINGrANGLErFIST INDEX MIDDLE RINGrCIRCLE INDEX MIDDLE RINGrHINGE INDEX MIDDLE RING
rANGLE INDEX MIDDLE RINGrHINGE LITTLErFIST INDEX MIDDLE RING BENTîCONJOINED
rHINGE INDEX MIDDLE RING CONJOINEDrFIST LITTLE DOWNç RIPPLE STRAIGHTïCURVEDèOTHERS CIRCLEDãUP
wTHUMB UNDER LITTLE UPrCIRCLE LITTLE UPrOVAL LITTLE UPrANGLE LITTLE UPrFIST LITTLE RAISED KNUCKLE
ãBENTãTOUCHES THUMBäHUMBrHINGE LITTLE THUMBrFIST LITTLE INDEX THUMBrHINGE LITTLE INDEX THUMB
rANGLE LITTLE INDEX THUMB INDEX THUMB OUTûrFIST LITTLE INDEXrCIRCLE LITTLE INDEXrHINGE LITTLE INDEX
rANGLE LITTLE INDEXrFIST INDEX MIDDLE LITTLErCIRCLE INDEX MIDDLE LITTLErHINGE INDEX MIDDLE LITTLE
xRINGrANGLE INDEX MIDDLE LITTLErFIST INDEX MIDDLE CROSS LITTLErCIRCLE INDEX MIDDLE CROSS LITTLE
rFIST RING DOWNrHINGE RING DOWN INDEX THUMB HOOK MIDDLErANGLE RING DOWN MIDDLE THUMB INDEX CROSS
rFIST RING UPáRAISED KNUCKLEáLITTLErCIRCLE RING LITTLErOVAL RING LITTLErANGLE RING LITTLE
rFIST RING MIDDLEç CONJOINEDèRAISED KNUCKLESáINDEXáTHUMBrHOOK RING THUMBrFIST INDEX RING LITTLE
rCIRCLE INDEX RING LITTLEsURLICUE INDEX RING LITTLE ONrHOOK INDEX RING LITTLE OUTîINîUNDER
rCUP INDEX RING LITTLErHINGE INDEX RING LITTLErANGLE INDEX RING LITTLE OUTîrFIST MIDDLE DOWN
rHINGE MIDDLErFIST MIDDLE UPrCIRCLE MIDDLE UPrFIST MIDDLE RAISED KNUCKLEãUP THUMB SIDE
rHOOK MIDDLE THUMBrFIST MIDDLE THUMB LITTLEãLITTLEãRING LITTLErCIRCLE MIDDLE RING LITTLE
sURLICUE MIDDLE RING LITTLE ONtP MIDDLE RING LITTLErHINGE MIDDLE RING LITTLE
rANGLE MIDDLE RING LITTLE OUTðINïrCIRCLE MIDDLE RING LITTLE BENTsLAW MIDDLE RING LITTLE CONJOINED
ø SIDErHOOK MIDDLE RING LITTLE CONJOINED OUTùINøsINGE INDEX HINGEDrFIST INDEX THUMB SIDE
rHINGE INDEX THUMB SIDErFIST INDEX THUMB SIDE THUMB DIAGONALóCONJOINEDóBENTíINDEX BENTíBOTH BENT
íINDEX HINGEèFORWARD INDEX STRAIGHTöBENTèHOOKèCURLICUEëVE THUMB INSIDE
rCLAW INDEX THUMB CURVE THUMB INSIDErFIST INDEX THUMB CURVE THUMB UNDERéIRCLErCUP INDEX THUMBæ OPEN
rHINGE INDEX THUMB OPENéLARGEèè SMALLrANGLE INDEX THUMB OUTéINèrFIST THUMBá HEELâSIDE DIAGONAL
çCONJOINEDçBENTâFORWARDâBETWEEN INDEX MIDDLEêMIDDLE RINGêRING LITTLEâUNDER TWO FINGERS
âOVER TWO FINGERSâUNDER THREE FINGERSèFOUR FINGERSâOVER FOUR RAISED KNUCKLESvv HEELmTOUCH SINGLE
sMULTIPLEsBETWEENmGRASP SINGLEsMULTIPLEsBETWEENmSTRIKE SINGLEtMULTIPLEtBETWEENmBRUSH SINGLEsMULTIPLE
sBETWEENmRUB SINGLEqMULTIPLEqBETWEENmSURFACE SYMBOLSuBETWEENnQUEEZE LARGE SINGLEuSMALL SINGLE
uLARGE MULTIPLEuSMALL MULTIPLEvEQUENTIALmFLICK LARGE SINGLEsSMALL SINGLEsLARGE MULTIPLE
sSMALL MULTIPLEtEQUENTIALmSQUEEZE FLICK ALTERNATINGmMOVEMENT-HINGE UP DOWN LARGEéSMALLäSEQUENTIAL
áDOWN SEQUENTIALáUP DOWN ALTERNATING LARGEõSMALLáSIDE TO SIDE SCISSORSvWALLPLANE FINGER CONTACT
vFLOORPLANE FINGER CONTACTvWALLPLANE SINGLE STRAIGHT SMALLõMEDIUMõLARGEúSTìWRIST FLEX
åDOUBLE STRAIGHTìWRIST FLEXìALTERNATING÷ WRIST FLEXåCROSSåTRIPLE STRAIGHT MOVEMENTìWRIST FLEX
ìALTERNATING÷ WRIST FLEXåBEND SMALLêMEDIUMêLARGEåCORNER SMALLìMEDIUMìLARGEìROTATIONæHECK SMALL
ëMEDIUMëLARGEåBOX SMALLéMEDIUMéLARGEåZIGZAG SMALLìMEDIUMìLARGEåPEAKS SMALLëMEDIUMëLARGE
mTRAVEL-WALLPLANE ROTATION-WALLPLANE SINGLEöDOUBLEöALTERNATINGìFLOORPLANE SINGLE÷DOUBLE÷ALTERNATING
ãSHAKINGãARM SPIRAL SINGLEîDOUBLEîTRIPLEmMOVEMENT-DIAGONAL AWAY SMALLéMEDIUMéLARGEîSTäTOWARDS SMALL
ìMEDIUMìLARGEñSTäBETWEEN AWAY SMALLñMEDIUMñLARGEöSTìTOWARDS SMALLôMEDIUMôLARGEùST
vFLOORPLANE SINGLE STRAIGHT SMALLöMEDIUMöLARGEûSTíWRIST FLEXæDOUBLE STRAIGHTíWRIST FLEXíALTERNATING
ø WRIST FLEXæCROSSæTRIPLE STRAIGHT MOVEMENTíWRIST FLEXíALTERNATING MOVEMENTùWRIST FLEXæBEND
æCORNER SMALLíMEDIUMíLARGEçHECKæBOX SMALLêMEDIUMêLARGEæZIGZAG SMALLíMEDIUMíLARGEæPEAKS SMALLìMEDIUM
ìLARGEmTRAVEL-FLOORPLANE ROTATION-FLOORPLANE SINGLEøDOUBLEøALTERNATINGíWALLPLANE SINGLE÷DOUBLE
÷ALTERNATINGäSHAKINGmMOVEMENT-WALLPLANE CURVE QUARTER SMALLóMEDIUMóLARGEøSTëHALF-CIRCLE SMALL÷MEDIUM
÷LARGEüSTëTHREE-QUARTER CIRCLE SMALLÿ MEDIUMåHUMP SMALLêMEDIUMêLARGEåLOOP SMALLêMEDIUMêLARGE
êSMALL DOUBLEåWAVE CURVE DOUBLE SMALL÷MEDIUM÷LARGEðTRIPLE SMALL÷MEDIUM÷LARGEåCURVE THEN STRAIGHT
êD CROSS SMALLòMEDIUMmROTATION-WALLPLANE SINGLEåDOUBLEåALTERNATEmMOVEMENT-WALLPLANE SHAKING
åCURVE HITTING FRONT WALLåHUMP HITTING FRONT WALLåLOOP HITTING FRONT WALLåWAVE HITTING FRONT WALL
mROTATION-WALLPLANE SINGLE HITTING FRONT WALLåDOUBLE HITTING FRONT WALL
åALTERNATING HITTING FRONT WALLmMOVEMENT-WALLPLANE CURVE HITTING CHESTåHUMP HITTING CHEST
åLOOP HITTING CHESTåWAVE HITTING CHESTmROTATION-WALLPLANE SINGLE HITTING CHESTåDOUBLE HITTING CHEST
åALTERNATING HITTING CHESTmMOVEMENT-WALLPLANE WAVE DIAGONAL PATH SMALLøMEDIUMøLARGE
vFLOORPLANE CURVE HITTING CEILING SMALLüLARGEæHUMP HITTING CEILING SMALL DOUBLEûLARGE DOUBLE
ûSMALL TRIPLEûLARGE TRIPLEæLOOP HITTING CEILING SMALL SINGLEûLARGE SINGLEûSMALL DOUBLEûLARGE DOUBLE
æWAVE HITTING CEILING SMALLûLARGEmROTATION-FLOORPLANE SINGLE HITTING CEILINGæDOUBLE HITTING CEILING
æALTERNATING HITTING CEILINGmMOVEMENT-FLOORPLANE CURVE HITTING FLOOR SMALLúLARGE
æHUMP HITTING FLOOR SMALL DOUBLEùLARGE DOUBLEùTRIPLE SMALL TRIPLEÿ LARGE TRIPLE
æLOOP HITTING FLOOR SMALL SINGLEùLARGE SINGLEùSMALL DOUBLEùLARGE DOUBLEæWAVE HITTING FLOOR SMALL
ùLARGEmROTATION-FLOORPLANE SINGLE HITTING FLOORæDOUBLE HITTING FLOORæALTERNATING HITTING FLOOR
mMOVEMENT-FLOORPLANE CURVE SMALLìMEDIUMìLARGEñSTìCOMBINEDæHUMP SMALLæLOOP SMALLæWAVE SNAKEìMALL
ëLARGEmROTATION-FLOORPLANE SINGLEæDOUBLEæALTERNATINGmMOVEMENT-FLOORPLANE SHAKING PARALLEL
vWALLPLANE ARM CIRCLE SMALL SINGLEðMEDIUM SINGLEðSMALL DOUBLEðMEDIUM DOUBLE
vFLOORPLANE ARM CIRCLE HITTING WALL SMALL SINGLEþMEDIUM SINGLEþLARGE SINGLEþSMALL DOUBLE
þMEDIUM DOUBLEþLARGE DOUBLEvWALLPLANE WRIST CIRCLE FRONT SINGLEøDOUBLE
vFLOORPLANE WRIST CIRCLE HITTING WALL SINGLEÿ DOUBLEvWALLPLANE FINGER CIRCLES SINGLEôDOUBLE
vFLOORPLANE FINGER CIRCLES HITTING WALL SINGLEÿLL DOUBLEmDYNAMIC ARROWHEAD SMALLäLARGEuFASTuSLOW
uTENSEuRELAXEDuSIMULTANEOUSæ ALTERNATINGuEVERY OTHER TIMEuGRADUALmHEADq RIM
rMOVEMENT-WALLPLANE STRAIGHTêTILTàFLOORPLANE STRAIGHTàWALLPLANE CURVEàFLOORPLANE CURVEz CIRCLE
mFACE DIRECTION POSITION NOSE FORWARD TILTINGïUP OR DOWNù TILTINGmEYEBROWS STRAIGHT UPäNEUTRALäDOWN
mDREAMY EYEBROWS NEUTRAL DOWNâDOWN NEUTRALâUP NEUTRALâNEUTRAL UPmFOREHEAD NEUTRALvCONTACTvWRINKLED
mEYES OPENrSQUEEZEDrCLOSEDp BLINK SINGLEwMULTIPLEpS HALF OPENrWIDE OPENrHALF CLOSED
rWIDENING MOVEMENTp WINKpLASHES UPwDOWNwFLUTTERINGpGAZE-WALLPLANE STRAIGHTì DOUBLEíALTERNATING
uFLOORPLANE STRAIGHTí DOUBLEîALTERNATINGuWALLPLANE CURVEDuFLOORPLANE CURVEDuWALLPLANE CIRCLING
mCHEEKS PUFFEDtNEUTRALtSUCKEDmTENSE CHEEKS HIGHzMIDDLEzLOWmEARSmNOSE NEUTRALrCONTACTrWRINKLESsIGGLES
mAIR BLOWING OUTqSUCKING INqBLOW SMALL ROTATIONSqSUCK SMALL ROTATIONSmBREATH INHALEtEXHALE
mMOUTH CLOSED NEUTRALzFORWARDzCONTACTsSMILEx WRINKLEDyOPENsFROWNx WRINKLEDyOPENsOPEN CIRCLExFORWARD
xWRINKLEDxOVALá WRINKLEDâYAWNxRECTANGLEæ WRINKLEDçYAWNsKISSw FORWARDxWRINKLEDsTENSEx FORWARDySUCKED
mLIPS PRESSED TOGETHERp LOWER OVER UPPERqUPPER OVER LOWERmMOUTH CORNERSsWRINKLES SINGLEáDOUBLE
mTONGUE STICKING OUT FARtLICKING LIPStTIP BETWEEN LIPSxTOUCHING INSIDE MOUTHtINSIDE MOUTH RELAXED
tMOVES AGAINST CHEEKtCENTRE STICKING OUTàINSIDE MOUTHnEETHr MOVEMENTsON TONGUEá MOVEMENTvLIPS
z MOVEMENTsBITE LIPSmMOVEMENT-WALLPLANE JAWvFLOORPLANE JAWmNECKmHAIRmEXCITEMENTmSHOULDER HIP SPINE
zPOSITIONSmWALLPLANE SHOULDER HIP MOVEmFLOORPLANE SHOULDER HIP MOVEmSHOULDER TILTING FROM WAIST
mTORSO-WALLPLANE STRAIGHT STRETCHâCURVED BENDsFLOORPLANE TWISTINGmUPPER BODY TILTING FROM HIP JOINTS
mLIMB COMBINATIONrLENGTH-1y2y3y4y5y6y7mFINGERmLOCATION-WALLPLANE SPACEvFLOORPLANE SPACEu HEIGHT
vWIDTHvDEPTHvHEAD NECKvTORSOvLIMBS DIGITSmCOMMAmFULL STOPmSEMICOLONmCOLONmPARENTHESIS>1DA9B
mFILL MODIFIER-2à3à4à5à6>1DAA1mROTATION MODIFIER-2ä3ä4ä5ä6ä7ä8ä9ä10å1å2å3å4å5å6>1DF00
aLATIN SMALL LETTER FENG DIGRAPH WITH TRILLtREVERSED SCRIPT GgLETTER SMALL CAPITAL TURNED G
gSMALL LETTER REVERSED KgLETTER SMALL CAPITAL L WITH BELTgSMALL LETTER LEZH WITH RETROFLEX HOOK
tTURNED Y WITH BELTtREVERSED ENGtTURNED R WITH LONG LEG AND RETROFLEX HOOK
u WITH HOOK AND RETROFLEX HOOKgLETTER RETROFLEX CLICK WITH RETROFLEX HOOK
gSMALL LETTER ESH WITH DOUBLE BARì AND CURLtTURNED T WITH CURL
gLETTER INVERTED GLOTTAL STOP WITH CURLnSTRETCHED C WITH CURLoMALL CAPITAL TURNED K
gSMALL LETTER L WITH FISHHOOKtDEZH DIGRAPH WITH PALATAL HOOKtL WITH BELT AND PALATAL HOOK
tENG WITH PALATAL HOOKtTURNED R WITH PALATAL HOOKtR WITH FISHHOOK AND PALATAL HOOK
tTESH DIGRAPH WITH PALATAL HOOKtEZH WITH PALATAL HOOKtDEZH DIGRAPH WITH RETROFLEX HOOK
tI WITH STROKE AND RETROFLEX HOOKtO WITH RETROFLEX HOOKtTESH DIGRAPH WITH RETROFLEX HOOK
tC WITH RETROFLEX HOOKtS WITH CURL>1E000aCOMBINING GLAGOLITIC LETTER AZUâBUKYâVEDEâGLAGOLIâDOBRO
âYESTUâZHIVETE>1E008ãEMLJAâIZHEãNITIAL IZHEãâDJERVIâKAKOâLJUDIJEâMYSLITEâNASHIâONUâPOKOJIâRITSI
âSLOVOâTVRIDOâUKUâFRITUâHERU>1E01BâSHTAâTSIâCHRIVIâSHAâYERUåIãATI>1E023ãUâSMALL YUS>1E026âYO
âIOTATED SMALL YUSâBIG YUSâIOTATED BIG YUSâFITA>1E100aNYIAKENG PUACHUE HMONG LETTER MAäTSAäNTAäTAäHA
äNAäXAäNKAäCAäLAäSAäZAäNCAåTSAäKAäDAäNYAåRAäVAäNTXAäTXAäFAäRAäQAäYAäNQAäPAäXYAäNPAäDLAäNPLAäHAHäMLA
äPLAäGAäRRAäAåAäIäUäOåOäEåEäW>1E130xTONE-BâMâJâVâSâGâDxSIGN FOR PERSONæTHINGæLOCATIONæANIMAL
æINVERTEBRATEâXW XWyYLLABLE LENGTHENER>1E140xDIGIT ZEROãONEãTWOäHREEãFOURäIVEãSIXäEVENãEIGHTãNINE
>1E14ExLOGOGRAM NYAJxCIRCLED CA>1E290aTOTO LETTER PAmBAmTAmDAmKAmGAmMAmNAnGAmSAmCHAmYAmWAmJAmHAmRA
mLAmImBREATHY ImIUmBREATHY IUmUmEmBREATHY EmEOmBREATHY EOmOmAEmBREATHY AEmAfSIGN RISING TONE>1E2C0
aWANCHO LETTER AApoBAoCAoDAoGAoYAoPHAoLAoNAoPAoTApHAoFAoSApHAoJAoZAoWAoVAoKAoOoAUoRAoMAoKHAoHAoEoI
oNGAoUoLLHAoTSApRAoONGoAANGpNGoINGoONoENoAANoNYAoUENoYIHhTONE TUPpNImKOIpNIhDIGIT ZEROnONEnTWOoHREE
nFOURoIVEnSIXoEVENnEIGHTnNINE>1E2FFhNGUN SIGN>1E7E0aETHIOPIC SYLLABLE HHYAvUvIvAAvEEwvO>1E7E8
sGURAGE HHWAsHHWIvEEw>1E7EDsGURAGE MWIáEE>1E7F0zQWIáEEâzBWIáEEzKWIáEEâzGWIáEEâzFWIáEEzPWIáEE>1E800
aMENDE KIKAKUI SYLLABLE M001 KIà2 KAà3 KUz65 KEEz95 KEz76 KOOz48 KOy179 KUAy004 WIà5 WAà6 WUy126 WEE
z18 WEà4 WOOy045 WOy194 WUIz43 WEIy061 WVIz49 WVAy139 WVEy007 MINà8 MANà9 MUNz59 MENz94 MONy154 MUAN
z89 MUENy010 BIà1 BAà2 BUy150 BEEy097 BEy103 BOOz38 BOy013 Ià4 Aà5 Uy163 EEz00 Ez65 OOz47 Oz37 EI
à1 INà5 INz95 ANz78 ENy019 SIz20 SAà1 SUy162 SEEz16 SEz36 SOOy079 SOy196 SIAy025 LIà6 LAà7 LUz84 LEE
z73 LEz54 LOOy153 LOz10 LONG LEy016 DIà7 DAà8 DUz89 DEEy180 DOOà1 DOy022 TIà3 TAà4 TUz91 TEEz55 TE
y104 TOOy069 TOz28 JIà9 JAz30 JUy157 JEEz13 JEz60 JOOy063 JOy175 LONG JOy031 YIà2 YAà3 YUy109 YEE
y080 YEy141 YOOz21 YOy034 FIà5 FAà6 FUz78 FEEà5 FEy133 FOOy088 FOy197 FUAz01 FANy037 NINà8 NANà9 NUN
y117 NENz69 NONz76 HIy041 HAy186 HUy040 HEEz96 HEz42 HOOy140 HOy083 HEEIy128 HOOUy053 HINy130 HAN
y087 HUNz52 HENy193 HONy046 HUANz90 NGGIz43 NGGAz82 NGGUy115 NGGEEz46 NGGEz56 NGGOOz20 NGGOz59 NGGAA
z27 NGGUAy086 LONG NGGEy106 LONG NGGOOz83 LONG NGGOz55 GIz11 GAz68 GUz90 GEEz66 GUEIà7 GUANz84 NGEN
y057 NGONy177 NGUANy068 PIz99 PAz50 PUz81 PEEz51 PEy102 POOy066 POy145 MBIy062 MBAy122 MBUy047 MBEE
y188 MBEEy072 MBEy172 MBOOà4 MBOz87 MBUUz61 LONG MBEz05 LONG MBOOz42 LONG MBOz32 KPIy092 KPAz74 KPU
z44 KPEEy108 KPEz12 KPOOz58 KPOz24 GBIy056 GBAy148 GBUy093 GBEEy107 GBEy071 GBOOà0 GBOy171 RAz23 NDI
à9 NDAà5 NDUz91 NDEEz19 NDEy067 NDOOà4 NDOy152 NJAz92 NJUz49 NJEEz34 NJOOz82 VIà5 VAz51 VUz73 VEE
y085 VEy144 VOOy077 VOy164 NYINy058 NYANy170 NYUNy098 NYENz60 NYON>1E8C7oDIGIT ONEuTWOvHREEuFOURvIVE
uSIXvEVENuEIGHTuNINEoCOMBINING NUMBER TEENSçNSåHUNDREDSåTHOUSANDSæEN THOUSANDSåHUNDRED THOUSANDS
åMILLIONS>1E900aADLAM CAPITAL LETTER ALIFvDAALIvLAAMvMIIMvBAvSINNYIIYHEvPEvBHEvRAvEvFAvIvOvDHAvYHE
vWAWvNUNvKAFvYAvUvJIIMvCHIvHAvQAAFvGAvNYAvTUvNHAvVAvKHAvGBEvZALvKPOvSHAgSMALL LETTER ALIFtDAALItLAAM
tMIIMtBAtSINNYIIYHEtPEtBHEtRAtEtFAtItOtDHAtYHEtWAWtNUNtKAFtYAtUtJIIMtCHItHAtQAAFtGAtNYAtTUtNHAtVA
tKHAtGBEtZALtKPOtSHAgALIF LENGTHENERgVOWEL LENGTHENERgGEMINATION MARKgHAMZAgCONSONANT MODIFIER
gGEMINATE CONSONANT MODIFIERgNUKTAhASALIZATION MARK>1E950gDIGIT ZEROmONEmTWOnHREEmFOURnIVEmSIXnEVEN
mEIGHTmNINE>1E95EgINITIAL EXCLAMATION MARKoQUESTION MARK>1EC71aINDIC SIYAQ NUMBER ONEtTWOuHREEtFOUR
uIVEtSIXuEVENtEIGHTtNINEtTENuWENTYuHIRTYtFORTYuIFTYtSIXTYuEVENTYtEIGHTYtNINETYtONE HUNDRED
tTWO HUNDREDuHREE HUNDREDtFOUR HUNDREDuIVE HUNDREDtSIX HUNDREDuEVEN HUNDREDtEIGHT HUNDRED
tNINE HUNDREDtONE THOUSANDtTWO THOUSANDuHREE THOUSANDtFOUR THOUSANDuIVE THOUSANDtSIX THOUSAND
uEVEN THOUSANDtEIGHT THOUSANDtNINE THOUSANDtTEN THOUSANDuWENTY THOUSANDuHIRTY THOUSAND
tFORTY THOUSANDuIFTY THOUSANDtSIXTY THOUSANDuEVENTY THOUSANDtEIGHTY THOUSANDtNINETY THOUSANDtLAKHxAN
mLAKH MARKmNUMBER KARORyANtPREFIXED ONEâTWOãHREEâFOURãIVEâSIXãEVENâEIGHTâNINEmPLACEHOLDER
mFRACTION ONE QUARTERzHALFvTHREE QUARTERSmRUPEE MARKmNUMBER ALTERNATE ONEãTWOäEN THOUSAND
mALTERNATE LAKH MARK>1ED01aOTTOMAN SIYAQ NUMBER ONEvTWOwHREEvFOURwIVEvSIXwEVENvEIGHTvNINEvTENwWENTY
wHIRTYvFORTYwIFTYvSIXTYwEVENTYvEIGHTYvNINETYvONE HUNDREDvTWO HUNDREDwHREE HUNDREDvFOUR HUNDRED
wIVE HUNDREDvSIX HUNDREDwEVEN HUNDREDvEIGHT HUNDREDvNINE HUNDREDvONE THOUSANDvTWO THOUSAND
wHREE THOUSANDvFOUR THOUSANDwIVE THOUSANDvSIX THOUSANDwEVEN THOUSANDvEIGHT THOUSANDvNINE THOUSAND
vTEN THOUSANDwWENTY THOUSANDwHIRTY THOUSANDvFORTY THOUSANDwIFTY THOUSANDvSIXTY THOUSAND
wEVENTY THOUSANDvEIGHTY THOUSANDvNINETY THOUSANDoMARRATANoALTERNATE NUMBER TWOæHREEåFOURæIVEåSIX
æEVENåEIGHTåNINEåTENåFOUR HUNDREDåSIX HUNDREDåTWO THOUSANDæEN THOUSANDoFRACTION ONE HALFáSIXTH>1EE00
aARABIC MATHEMATICAL ALEFuBEHuJEEMuDAL>1EE05uWAWuZAINuHAHuTAHuYEHuKAFuLAMuMEEMuNOONuSEENuAINuFEHuSAD
uQAFuREHuSHEENuTEHvHEHuKHAHuTHALuDADuZAHuGHAINuDOTLESS BEHâNOONâFEHâQAF>1EE21uINITIAL BEHâJEEM>1EE24
âHEH>1EE27ãAH>1EE29âYEHâKAFâLAMâMEEMâNOONâSEENâAINâFEHâSADâQAF>1EE34âSHEENâTEHãHEHâKHAH>1EE39âDAD
>1EE3BâGHAIN>1EE42uTAILED JEEM>1EE47áHAH>1EE49áYEH>1EE4BáLAM>1EE4DáNOONáSEENáAIN>1EE51áSADáQAF>1EE54
áSHEEN>1EE57áKHAH>1EE59áDAD>1EE5BáGHAIN>1EE5DáDOTLESS NOON>1EE5FéQAF>1EE61uSTRETCHED BEHäJEEM>1EE64
äHEH>1EE67åAHäTAHäYEHäKAF>1EE6CäMEEMäNOONäSEENäAINäFEHäSADäQAF>1EE74äSHEENäTEHåHEHäKHAH>1EE79äDAD
äZAHäGHAINäDOTLESS BEH>1EE7EìFEH>1EE80uLOOPED ALEFáBEHáJEEMáDALáHEHáWAWáZAINáHAHáTAHáYEH>1EE8BáLAM
áMEEMáNOONáSEENáAINáFEHáSADáQAFáREHáSHEENáTEHâHEHáKHAHáTHALáDADáZAHáGHAIN>1EEA1uDOUBLE-STRUCK BEH
èJEEMèDAL>1EEA5èWAWèZAINèHAHèTAHèYEH>1EEABèLAMèMEEMèNOONèSEENèAINèFEHèSADèQAFèREHèSHEENèTEHéHEHèKHAH
èTHALèDADèZAHèGHAIN>1EEF0uOPERATOR MEEM WITH HAH WITH TATWEELãHAH WITH DAL
"

end Scalpel.Text.CharName

import Scalpel.Text.CharName.Table

/-!
The names of characters of scripts that are, for the greater part, no longer written.
-/

set_option autoImplicit false

namespace Scalpel.Text.CharName

def ancient : String := "
>10000aLINEAR B SYLLABLE B008 Au38 Eu28 Iu61 Ou10 Uu01 DAu45 DEu07 DIu14 DOu51 DUv7 JAu46 JE>1000D
u36 JOu65 JUu77 KAu44 KEu67 KIu70 KOu81 KUv0 MAu13 MEu73 MIu15 MOu23 MUu06 NAu24 NEu30 NIu52 NOv5 NU
u03 PAu72 PEu39 PIu11 POu50 PUu16 QAu78 QEu21 QIu32 QO>10028u60 RAu27 REu53 RIu02 ROu26 RUu31 SA
u09 SEu41 SIu12 SOu58 SUv9 TAu04 TEu37 TIu05 TOu69 TUu54 WAu75 WEu40 WIv2 WO>1003Cu17 ZAu74 ZE>1003F
u20 ZOv5 A2u43 A3u85 AUu71 DWEu90 DWOu48 NWAu29 PU2u62 PTEu76 RA2u33 RA3u68 RO2v6 TA2u87 TWEu91 TWO
>10050lMBOL B018t9s22s34s47t9s56s63t4s79s82t3t6t9>10080jIDEOGRAM B100 MANv2 WOMANv4 DEERv5 EQUID
wF MAREwM STALLIONv6F EWEwM RAMv7F SHE-GOATwM HE-GOATv8F SOWwM BOARv9F COWwM BULLu20 WHEATv1 BARLEY
v2 OLIVEv3 SPICEv5 CYPERUSjMONOGRAM B127 KAPOv8 KANAKOjIDEOGRAM B130 OILv1 WINEv2
jMONOGRAM B133 AREPAv5 MERIjIDEOGRAM B140 BRONZEv1 GOLDv2v5 WOOLv6u50v1 HORNv2v3v4
jMONOGRAM B156 TURO2jIDEOGRAM B157v8v9 CLOTHu60v1v2 GARMENTv3 ARMOURv4v5v6v7v8v9u70v1v2v3 MONTHv4
v6 TREEv7v8v9u80v1v2v3v4v5v9u90v1 HELMETt220 FOOTSTOOLv5 BATHTUBu30 SPEARv1 ARROWv2v3 SWORDv4v6
u40 WHEELED CHARIOTv1 CHARIOTv2 CHARIOT FRAMEv3 WHEELv5v6jMONOGRAM B247 DIPTEjIDEOGRAM B248v9u51v2v3
v4 DARTv5v6v7v8v9sVESSEL B155à200â1â2â3â4â5â6â7â8â9á10â1â2â3â4â5â6â7â8â9á21â2â6â7â8â9á50à305>10100
aAEGEAN WORD SEPARATOR LINEwDOThCHECK MARK>10107hNUMBER ONEoTWOpHREEoFOURpIVEoSIXpEVENoEIGHToNINE
oTENpWENTYpHIRTYoFORTYpIFTYoSIXTYpEVENTYoEIGHTYoNINETYoONE HUNDREDoTWO HUNDREDpHREE HUNDRED
oFOUR HUNDREDpIVE HUNDREDoSIX HUNDREDpEVEN HUNDREDoEIGHT HUNDREDoNINE HUNDREDoONE THOUSAND
oTWO THOUSANDpHREE THOUSANDoFOUR THOUSANDpIVE THOUSANDoSIX THOUSANDpEVEN THOUSANDoEIGHT THOUSAND
oNINE THOUSANDoTEN THOUSANDpWENTY THOUSANDpHIRTY THOUSANDoFORTY THOUSANDpIFTY THOUSAND
oSIXTY THOUSANDpEVENTY THOUSANDoEIGHTY THOUSANDoNINETY THOUSAND>10137hWEIGHT BASE UNIToFIRST SUBUNIT
oSECOND SUBUNIToTHIRD SUBUNIToFOURTH SUBUNIThDRY MEASURE FIRST SUBUNIThLIQUID MEASURE FIRST SUBUNIT
hMEASURE SECOND SUBUNITpTHIRD SUBUNITaGREEK ACROPHONIC ATTIC ONE QUARTERáHALFáDRACHMAxFIVEzFTY
zVE HUNDREDâTHOUSANDzFTY THOUSANDzVE TALENTSxTEN TALENTSxFIFTY TALENTSxONE HUNDRED TALENTS
xFIVE HUNDRED TALENTSxONE THOUSAND TALENTSxFIVE THOUSAND TALENTSâSTATERSxTEN STATERSxFIFTY STATERS
xONE HUNDRED STATERSxFIVE HUNDRED STATERSxONE THOUSAND STATERSxTEN THOUSAND STATERS
xFIFTY THOUSAND STATERSxTEN MNASrHERAEUM ONE PLETHRONrTHESPIAN ONErHERMIONIAN ONErEPIDAUREAN TWO
rTHESPIAN TWOrCYRENAIC TWO DRACHMASrEPIDAUREAN TWO DRACHMASrTROEZENIAN FIVEâTENå ALTERNATE FORM
rHERMIONIAN TENrMESSENIAN TENrTHESPIAN TENáHIRTYsROEZENIAN FIFTYç ALTERNATE FORMrHERMIONIAN FIFTY
rTHESPIAN FIFTYàONE HUNDREDàTHREE HUNDREDrEPIDAUREAN FIVE HUNDREDrTROEZENIAN FIVE HUNDRED
sHESPIAN FIVE HUNDREDrCARYSTIAN FIVE HUNDREDrNAXIAN FIVE HUNDREDrTHESPIAN ONE THOUSANDàFIVE THOUSAND
rDELPHIC FIVE MNASrSTRATIAN FIFTY MNASgONE HALF SIGNt ALTERNATE FORMgTWO THIRDS SIGN
hHREE QUARTERS SIGNgYEAR SIGNgTALENT SIGNgDRACHMA SIGNgOBOL SIGNgTWO OBOLS SIGNhHREE OBOLS SIGN
gFOUR OBOLS SIGNhIVE OBOLS SIGNgMETRETES SIGNgKYATHOS BASE SIGNgLITRA SIGNgOUNKIA SIGNgXESTES SIGN
gARTABE SIGNiOURA SIGNgGRAMMA SIGNgTRYBLION BASE SIGNgZERO SIGNgONE QUARTER SIGNgSINUSOID SIGN
gINDICTION SIGNaNOMISMA SIGN>10190aROMAN SEXTANS SIGNgUNCIA SIGNgSEMUNCIA SIGNiXTULA SIGN
gDIMIDIA SEXTULA SIGNgSILIQUA SIGNgDENARIUS SIGNgQUINARIUS SIGNgSESTERTIUS SIGNgDUPONDIUS SIGN
gAS SIGNgCENTURIAL SIGNaASCIA SYMBOL>101A0aGREEK SYMBOL TAU RHO>101D0aPHAISTOS DISC SIGN PEDESTRIAN
uLUMED HEADtTATTOOED HEADtCAPTIVEuHILDtWOMANtHELMETtGAUNTLETtTIARAtARROWtBOWtSHIELDtCLUBtMANACLES
vTTOCKtSAWtLIDtBOOMERANGtCARPENTRY PLANEtDOLIUMtCOMBtSLINGtCOLUMNtBEEHIVEtSHIPtHORNuIDEtBULLS LEG
tCATtRAMtEAGLEtDOVEtTUNNYtBEEtPLANE TREEtVINEtPAPYRUStROSETTEtLILYtOX BACKtFLUTEtGRATERtSTRAINER
uMALL AXEtWAVY BANDtCOMBINING OBLIQUE STROKE>10280aLYCIAN LETTER AoEoBpHoGoDoIoWoZoTHoJoKoQoLoMoNoMM
oNNoUoPoKKoRoSoTpToANoENoHoX>102A0aCARIAN LETTER AoP2oDoLoUUUoRoLDoA2oQoBoMoOoD2oToSHq2poC-18oUoNNoX
oNoTT2oPoSSoIoEoUUUUoKp2oNDoUUoGp2oSTq2oNGoIIoC-39oTToUUU2oRRoMBq2q3q4oLD2oE2oUUU3>102E0
bOPTIC EPACT THOUSANDS MARKnDIGIT ONEtTWOuHREEtFOURuIVEtSIXuEVENtEIGHTtNINEnNUMBER TENvWENTYvHIRTY
uFORTYvIFTYuSIXTYvEVENTYuEIGHTYuNINETYuONE HUNDREDuTWO HUNDREDvHREE HUNDREDuFOUR HUNDREDvIVE HUNDRED
uSIX HUNDREDvEVEN HUNDREDuEIGHT HUNDREDuNINE HUNDRED>10300aOLD ITALIC LETTER AsBEsKEsDEsEsVEsZEsHE
sTHEsIsKAsELtMtNtSHsOsPEsSHEsKUsERtSsTEsUsEKSsPHEsKHEsEFtRSsCHEsIIsUUsESSlNUMERAL ONEtFIVEtTENtFIFTY
>1032DlLETTER YEsNORTHERN TSEsSOUTHERN TSEaGOTHIC LETTER AHSAoBAIRKANoGIBAoDAGSoAIHVUSoQAIRTHRAoIUJA
oHAGLoTHIUTHoEISoKUSMAoLAGUSoMANNAoNAUTHSoJERoURUSoPAIRTHRAoNINETYoRAIDAoSAUILoTEIWSoWINJAoFAIHU
oIGGWSoHWAIRoOTHALoNINE HUNDRED>10350aOLD PERMIC LETTER ANsBURsGAIsDOIsEsZHOIsDZHOIsZATAsDZITAsI
sKOKEsLEIsMENOEsNENOEsVOOIsPEEIsREIsSIIsTAIsUsCHERYsSHOOIuCHOOIsYRYtERUsOtOsEFsHAsTSIUsVERsYERvItAT
sIEsYUtAsIAaCOMBINING OLD PERMIC LETTER ANâDOIâZATAâNENOEâSII>10380aUGARITIC LETTER ALPAqBETAqGAMLA
qKHAqDELTAqHOqWOqZETAqHOTAqTETqYODqKAFqSHINqLAMDAqMEMqDHALqNUNqZUqSAMKAqAINqPUqSADEqQOPAqRASHA
qTHANNAqGHAINqTOqIqUqSSU>1039FjWORD DIVIDERaOLD PERSIAN SIGN ArIrUrKAsUrGAsUrXArCArJAsIrTAsUrDAsIsU
rTHArPArBArFArNAsUrMAsIsUrYArVAsIrRAsUrLArSArZArSHAsSArHA>103C8rAURAMAZDAAá-2áHArXSHAAYATHIYA
rDAHYAAUSHà-2rBAGAsUUMISHmWORD DIVIDERmNUMBER ONEtTWOuENuWENTYtHUNDRED>10400
aDESERET CAPITAL LETTER LONG IâEâAãHâOãOxSHORT IãEãAäHãOäOxAYxOWxWUxYEExHxPEExBEExTEExDEExCHEExJEE
xKAYxGAYxEFxVEExETHxTHEExESxZEExESHxZHEExERyLyMyNzGxOIxEWiSMALL LETTER LONG IàEàAáHàOáOvSHORT IáEáA
âHáOâOvAYvOWvWUvYEEvHvPEEvBEEvTEEvDEEvCHEEvJEEvKAYvGAYvEFvVEEvETHvTHEEvESvZEEvESHvZHEEvERwLwMwNxGvOI
vEWaSHAVIAN LETTER PEEPpTOTpKICKpFEEpTHIGHpSOqUREpCHURCHpYEApHUNGpBIBpDEADpGAGpVOWpTHEYpZOOpMEASURE
pJUDGEpWOEpHA-HApLOLLpMIMEpIFpEGGpASHqDOpONpWOOLpOUTpAHpROARpNUNpEATpAGEpICEpUPpOAKqOZEqILpAWEqREpOR
pAIRpERRpARRAYpEARpIANpYEWaOSMANYA LETTER ALEFpBApTApJApXApKHApDEELpRApSAqHIINpDHApCAYNpGApFApQAAF
pKAAFpLAANpMIINpNUUNpWAWpHApYApApEpIpOpUpAApEEpOO>104A0iDIGIT ZEROoONEoTWOpHREEoFOURpIVEoSIXpEVEN
oEIGHToNINE>104B0cAGE CAPITAL LETTER AwIxNwHvBRAvCHAvEHCHAwwINvHAwYAvIvKAvEHKAvKYAvLAvMAvNAvOwINvPA
vEHPAvSAwHAvTAvEHTAvTSAvEHTSAvTSHAvDHAvUvWAvKHAvGHAvZAwHA>104D8gSMALL LETTER AuIvNuHtBRAtCHAtEHCHAu
uINtHAuYAtItKAtEHKAtKYAtLAtMAtNAtOuINtPAtEHPAtSAuHAtTAtEHTAtTSAtEHTSAtTSHAtDHAtUtWAtKHAtGHAtZAuHA
>10500aELBASAN LETTER ApBEpCEqHEpDEpNDEpDHEpEIqpFEpGEqJEpHEpIpJEpKEpLEqLEpMEpNEqAqJEpOpPEpQEpREqRE
pSEqHEpTEqHEpUpVEpXEpYpZEqHEpGHErAMMApKHE>10530aCAUCASIAN ALBANIAN LETTER ALTàBETàGIMàDATàEBàZARL
àEYNàZHILàTASàCHAàYOWDàZHAàIRBàSHAàLANàINYAàXEYNàDYANàCARàJHOXàKARàLYITàHEYTàQAYàAORàCHOYâIáYAYàMAQ
àQARàNOWCàDZYAYàSHAKàJAYNàONàTYAYàFAMàDZAYàCHATàPENàGHEYSàRATàSEYKàVEYZàTIWRàSHOYàIWNàCYAWáAYNàYAYD
àPIWRàKIW>1056FtCITATION MARKaVITHKUQI CAPITAL LETTER AyBBEzEyCEzHEyDEzHEyEIzyFEyGA>1057CyHAzHAyIzJE
yJEyKAyLAzLAyMEyNEzJEyOyPEyQAyRE>1058CySEzHEyTEzHEyUyVEyXE>10594yYyZE>10597jSMALL LETTER AwBBExEwCE
xHEwDExHEwEIxwFEwGA>105A3wHAxHAwIxJEwJEwKAwLAxLAwMEwNExJEwOwPEwQAwRE>105B3wSExHEwTExHEwUwVEwXE>105BB
wYwZE>10600aLINEAR A SIGN AB001s2s3s4s5s6s7s8s9r10s1s3s6s7r20s1tFtMs2tFtMs3tMs4s6s7s8p028BpB029r30s1
s4s7s8s9r40s1s4s5s6s7s8s9r50s1s3s4s5s6s7s8s9r60s1s5s6s7s9r70s3s4s6s7s8s9r80s1s2s5s6s7p100-102pB118
r20p120BpB122s3r31AtBp131CpB164r71r80s8r91p301r2r3r4r5r6r7r8r9AsBsCq10r1r2r3AsBsCr4r5r6r7r8r9q20r1r2
r3r4r5r6r7r8r9q30r1r2r3r4r5r6r7r8r9q40r1r2r3r4r5r6r7r8r9q50r1r2r3r4r5r6r7r8r9q60r1r2r3r4r5r6r7r8r9
q70r1p400-VASr1-VASr2-VASr3-VASr4-VASr5-VASr6-VASr7-VASr8-VASr9-VASq10-VASr1-VASr2-VASr3-VASr4-VAS
r5-VASr6-VASr7-VASr8-VASp501r2r3r4r5r6r8r9q10r1r2r3r5r6q20r1r3r4r5r6r7r8r9q30r1r2r4r5r6r7r8r9q40r1r2
r5r7r8r9q50r1r2r3r4r5r6r7r9q63r4r5r6r8r9q70r1r2r3r4r5r6r7r8r9q80r1r2r3r4r5r6r7r8r9q91r2r4r5r6r8p600
r1r2r3r4r6r8r9q10r1r2r3r4r5r6r7r8r9q20r1r2r3r4r6r7r8r9q34r7r8q40r2r3r4r5r6r8r9q51r2r3r4r5r6r7r8r9q60
r1r2r3r4>10740p701 Ar2 Br3 Dr4 Er5 Fr6 Hr7 Jr8 Kr9 Ls-2 L2t3 L3t4 L4t6 L6q10 Wr1 Xr2 Yr3 OMEGAr4 ABB
r5 BBr7 DDq26 EYYYq32 JE>10760p800r1r2r3r4r5r6r7>10780aMODIFIER LETTER SMALL CAPITAL AA
rUPERSCRIPT TRIANGULAR COLONâHALF TRIANGULAR COLONrMALL AEwCAPITAL BwB WITH HOOK>10787wDZ DIGRAPH
æ WITH RETROFLEX HOOKìCURLxEZH DIGRAPHx WITH TAILãHOOKç AND TAILwREVERSED EwCLOSED REVERSED OPEN E
wFENG DIGRAPHwRAMS HORNwCAPITAL GwG WITH HOOKwCAPITAL G WITH HOOKwH WITH STROKEwCAPITAL H
wHENG WITH HOOKwDOTLESS J WITH STROKE AND HOOKwLS DIGRAPHxZ DIGRAPHx WITH BELTwCAPITAL L WITH BELT
wL WITH RETROFLEX HOOK AND BELTxEZHà WITH RETROFLEX HOOKwTURNED Yä WITH BELTwO WITH STROKE
wCAPITAL OExLOSED OMEGAwQwTURNED R WITH LONG LEGò AND RETROFLEX HOOKwR WITH TAILãFISHHOOKwCAPITAL R
wTC DIGRAPH WITH CURLxS DIGRAPHæ WITH RETROFLEX HOOKxESH DIGRAPHx WITH RETROFLEX HOOK
wV WITH RIGHT HOOK>107B2wCAPITAL YqGLOTTAL STOP WITH STROKEqREVERSED GLOTTAL STOP WITH STROKE
qBILABIAL CLICKqDENTAL CLICKqLATERAL CLICKqALVEOLAR CLICKqRETROFLEX CLICK WITH RETROFLEX HOOK
qSMALL S WITH CURL>10800aCYPRIOT SYLLABLE ArErIrOrUrJA>10808sO>1080ArKAsEsIsOsUrLAsEsIsOsUrMAsEsIsO
sUrNAsEsIsOsUrPAsEsIsOsUrRAsEsIsOsUrSAsEsIsOsUrTAsEsIsOsUrWAsEsIsO>10837rXAsE>1083CrZA>1083FsO
aIMPERIAL ARAMAIC LETTER ALEPHyBETHyGIMELyDALETHyHEyWAWyZAYINyHETHyTETHyYODHyKAPHyLAMEDHyMEMyNUN
ySAMEKHyAYINyPEySADHEyQOPHyRESHySHINyTAW>10857rSECTION SIGNrNUMBER ONEyTWOzHREEzENzWENTYyONE HUNDRED
âTHOUSANDyTEN THOUSANDaPALMYRENE LETTER ALEPHrBETHrGIMELrDALETHrHErWAWrZAYINrHETHrTETHrYODHrKAPH
rLAMEDHrMEMrFINAL NUNrNUNrSAMEKHrAYINrPErSADHErQOPHrRESHrSHINrTAWmFT-POINTING FLEURON
kRIGHT-POINTING FLEURONkNUMBER ONErTWOsHREErFOURsIVErTENsWENTYaNABATAEAN LETTER FINAL ALEPHrALEPH
rFINAL BETHrBETHrGIMELrDALETHrFINAL HErHErWAWrZAYINrHETHrTETHrFINAL YODHrYODHrFINAL KAPHrKAPH
rFINAL LAMEDHrLAMEDHrFINAL MEMrMEMrFINAL NUNrNUNrSAMEKHrAYINrPErSADHErQOPHrRESHrFINAL SHINrSHINrTAW
>108A7kNUMBER ONErTWOsHREErFOURkCRUCIFORM NUMBER FOURkNUMBER FIVErTENsWENTYrONE HUNDRED>108E0
aHATRAN LETTER ALEPHoBETHoGIMELoDALETH-RESHoHEoWAWoZAYNoHETHoTETHoYODHoKAPHoLAMEDHoMEMoNUNoSAMEKH
oAYNoPEoSADHEoQOPH>108F4oSHINoTAW>108FBhNUMBER ONEoFIVEoTENpWENTYoONE HUNDREDaPHOENICIAN LETTER ALF
sBETsGAMLsDELTsHEsWAUsZAIsHETsTETsYODsKAFsLAMDsMEMsNUNsSEMKsAINsPEsSADEsQOFsROSHsSHINsTAUlNUMBER ONE
sTENtWENTYsONE HUNDREDsTWOtHREE>1091FlWORD SEPARATORaLYDIAN LETTER AoBoGoDoEoVoIoYoKoLoMoNoOoRoSSoT
oUoFoQoSoTToANoENoLYoNNoC>1093FhTRIANGULAR MARK>10980aMEROITIC HIEROGLYPHIC LETTER AãEãIãOãYAãWAãBA
å-2ãPAãMAãNAå-2äEå-2ãRAå-2ãLAãKHAãHHAãSAå-2äEãKAãQAãTAå-2äEå-2äOãDAwSYMBOL VIDJç-2jCURSIVE LETTER A
yEyIyOyYAyWAyBAyPAyMAyNAzEyRAyLAyKHAyHHAySAyARCHAIC SAySEyKAyQAyTAzEzOyDA>109BC
rFRACTION ELEVEN TWELFTHSàONE HALFrLOGOGRAM RMTàIMNrNUMBER ONEyTWOzHREEyFOURzIVEySIXzEVENyEIGHTyNINE
yTENzWENTYzHIRTYyFORTYzIFTYySIXTYzEVENTY>109D2yONE HUNDREDyTWO HUNDREDzHREE HUNDREDyFOUR HUNDRED
zIVE HUNDREDySIX HUNDREDzEVEN HUNDREDyEIGHT HUNDREDyNINE HUNDREDyONE THOUSANDyTWO THOUSAND
zHREE THOUSANDyFOUR THOUSANDzIVE THOUSANDySIX THOUSANDzEVEN THOUSANDyEIGHT THOUSANDyNINE THOUSAND
yTEN THOUSANDzWENTY THOUSANDzHIRTY THOUSANDyFORTY THOUSANDzIFTY THOUSANDySIXTY THOUSAND
zEVENTY THOUSANDyEIGHTY THOUSANDyNINETY THOUSANDyONE HUNDRED THOUSANDyTWO HUNDRED THOUSAND
zHREE HUNDRED THOUSANDyFOUR HUNDRED THOUSANDzIVE HUNDRED THOUSANDySIX HUNDRED THOUSAND
zEVEN HUNDRED THOUSANDyEIGHT HUNDRED THOUSANDyNINE HUNDRED THOUSANDrFRACTION ONE TWELFTH
àTWO TWELFTHSáHREE TWELFTHSàFOUR TWELFTHSáIVE TWELFTHSàSIX TWELFTHSáEVEN TWELFTHSàEIGHT TWELFTHS
àNINE TWELFTHSàTEN TWELFTHSaKHAROSHTHI LETTER AlVOWEL SIGN IwUwVOCALIC R>10A05wEwO>10A0CrLENGTH MARK
lSIGN DOUBLE RING BELOWqANUSVARAqVISARGAlLETTER KAtHAsGAtHA>10A15sCAtHAsJA>10A19sNYAsTTAuHAsDDAuHA
sNNAsTAtHAsDAtHAsNAsPAtHAsBAtHAsMAsYAsRAsLAsVAsSHAtSAtAsZAsHAsKKAsTTTHAvAsVHA>10A38lSIGN BAR ABOVE
qCAUDAqDOT BELOW>10A3FlVIRAMAlDIGIT ONErTWOsHREErFOURlNUMBER TENtWENTYsONE HUNDREDwTHOUSAND
lFRACTION ONE HALF>10A50lPUNCTUATION DOTxSMALL CIRCLExCIRCLEyRESCENT BARxMANGALAMxLOTUSxDANDA
yOUBLE DANDAxLINES>10A60aOLD SOUTH ARABIAN LETTER HEzLAMEDHzHETHzMEMzQOPHzWAWzSHINzRESHzBETHzTAWzSAT
zKAPHzNUNzKHETHzSADHEáMEKHzFEzALEFàYNzDHADHEzGIMELzDALETHzGHAYNzTETHzZAYNzDHALETHzYODHzTHAWáETH
sNUMBER ONEzFIFTYvERIC INDICATOReNORTH ARABIAN LETTER HEHzLAMzHAHzMEEMzQAFzWAWzES-2zREHzBEHzTEHzES-1
zKAFzNOONzKHAHzSADzES-3zFEHzALEFàINzDADzGEEMzDALzGHAINzTAHzZAINzTHALzYEHzTHEHzZAHsNUMBER ONEzTEN
àWENTY>10AC0aMANICHAEAN LETTER ALEPHsBETHtHETHsGIMELtHIMELsDALETHsHEsWAWlSIGN UDlLETTER ZAYINtHAYIN
sJAYINtHAYINsHETHsTETHsYODHsKAPHsXAPHsKHAPHsLAMEDHsDHAMEDHsTHAMEDHsMEMsNUNsSAMEKHsAYINtAYINsPEsFE
sSADHEsQOPHsXOPHsQHOPHsRESHsSHINtSHINsTAWlABBREVIATION MARK ABOVEãBELOW>10AEBlNUMBER ONEsFIVEsTEN
tWENTYsONE HUNDREDlPUNCTUATION STARxFLEURONxDOUBLE DOT WITHIN DOTzT WITHIN DOTàxTWO DOTSxLINE FILLER
>10B00aAVESTAN LETTER AqAqOqAOqNqANqErEpEqEpOqOpIqIpUqUpKEpXEqYEqVEpGEqGEqHEpCEpJEpTEqHEpDEqHEpTTE
pPEpFEpBEqHEpNGErYErVEqEqYEqNEpMEpHMEpYYEqEpVEpREpLEpSEpZEpSHEpZHEpSHYEqSHEpHE>10B39
iABBREVIATION MARKaTINY TWO DOTS OVER ONE DOT PUNCTUATIONaSMALL TWO DOTS OVER ONE DOT PUNCTUATION
aLARGE TWO DOTS OVER ONE DOT PUNCTUATIONgONE DOT OVER TWO DOTS PUNCTUATION
gTWO RINGS OVER ONE RING PUNCTUATIONgONE RING OVER TWO RINGS PUNCTUATION
aINSCRIPTIONAL PARTHIAN LETTER ALEPHäBETHäGIMELäDALETHäHEäWAWäZAYINäHETHäTETHäYODHäKAPHäLAMEDHäMEM
äNUNäSAMEKHäAYINäPEäSADHEäQOPHäRESHäSHINäTAW>10B58xNUMBER ONEäTWOåHREEäFOURäTENåWENTYäONE HUNDRED
èTHOUSANDqHLAVI LETTER ALEPHãBETHãGIMELãDALETHãHEãWAW-AYIN-RESHãZAYINãHETHãTETHãYODHãKAPHãLAMEDH
ãMEM-QOPHãNUNãSAMEKHãPEãSADHEäHINãTAW>10B78wNUMBER ONEãTWOäHREEãFOURãTENäWENTYãONE HUNDREDçTHOUSAND
aPSALTER PAHLAVI LETTER ALEPHxBETHxGIMELxDALETHxHExWAW-AYIN-RESHxZAYINxHETHxYODHxKAPHxLAMEDH
xMEM-QOPHxNUNxSAMEKHxPExSADHEyHINxTAW>10B99qSECTION MARKqTURNED SECTION MARKqFOUR DOTS WITH CROSS
åDOT>10BA9qNUMBER ONExTWOyHREExFOURxTENyWENTYxONE HUNDRED>10C00aOLD TURKIC LETTER ORKHON AsYENISEI A
áEsORKHON IsYENISEI IàEsORKHON OàEsYENISEI OEsORKHON ABsYENISEI ABsORKHON AEBsYENISEI AEBsORKHON AG
sYENISEI AGsORKHON AEGsYENISEI AEGsORKHON ADsYENISEI ADsORKHON AEDzEZsYENISEI EZsORKHON AY
sYENISEI AYsORKHON AEYsYENISEI AEYsORKHON AEKsYENISEI AEKsORKHON OEKsYENISEI OEKsORKHON AL
sYENISEI ALsORKHON AELzELTàMzANàENsYENISEI AENsORKHON ENTsYENISEI ENTsORKHON ENCsYENISEI ENC
sORKHON ENYsYENISEI ENYàANGsORKHON ENGsYENISEI AENGsORKHON EPzOPzICzECsYENISEI ECsORKHON AQ
sYENISEI AQsORKHON IQsYENISEI IQsORKHON OQsYENISEI OQsORKHON ARsYENISEI ARsORKHON AERàSàESàSH
sYENISEI ASHsORKHON ESHsYENISEI ESHsORKHON ATsYENISEI ATsORKHON AETsYENISEI AETsORKHON OTzBASH>10C80
eHUNGARIAN CAPITAL LETTER AäAãEBãAMBãECäNCäCSäDãANDãEãCLOSE EãEEäFäGåYäHãIäIãEJäKãAKãUNKãELåYäMäNåY
ãOäOãNIKOLSBURG OEãRUDIMENTA OEãOEEãEPäMPäRãSHORT ERãESåZäTäNTäTYäCHãUäUãNIKOLSBURG UEãRUDIMENTA UE
ãEVäZåSäNT-SHAPED SIGNãUS>10CC0oSMALL LETTER AâAáEBáAMBáECâNCâCSâDáANDáEáCLOSE EáEEâFâGãYâHáIâIáEJâK
áAKáUNKáELãYâMâNãYáOâOáNIKOLSBURG OEáRUDIMENTA OEáOEEáEPâMPâRáSHORT ERáESãZâTâNTâTYâCHáUâU
áNIKOLSBURG UEáRUDIMENTA UEáEVâZãSâNT-SHAPED SIGNáUS>10CFAoNUMBER ONEvFIVEvTENvFIFTYvONE HUNDRED
zTHOUSANDaHANIFI ROHINGYA LETTER AxBAxPAxTAyTAxJAxCAxHAxKHAxFAxDAyDAxRAyRAxZAxSAyHAxKAxGAxLAxMAxNA
xWAxKINNA WAxYAxKINNA YAxNGAyYAxVAqVOWEL AwIwUwEwOqMARK SAKINvNA KHONNAqSIGN HARBAHAYvTAHALAxNAxSSI
>10D30qDIGIT ZEROwONEwTWOxHREEwFOURxIVEwSIXxEVENwEIGHTwNINE>10E60aRUMI DIGIT ONElTWOmHREElFOURmIVE
lSIXmEVENlEIGHTlNINEfNUMBER TENnWENTYnHIRTYmFORTYnIFTYmSIXTYnEVENTYmEIGHTYmNINETYmONE HUNDRED
mTWO HUNDREDnHREE HUNDREDmFOUR HUNDREDnIVE HUNDREDmSIX HUNDREDnEVEN HUNDREDmEIGHT HUNDRED
mNINE HUNDREDfFRACTION ONE HALFsQUARTERsTHIRDoTWO THIRDS>10E80aYEZIDI LETTER ELIFoBEoPEpHEoTHEoSE
oCIMpHIMqHIMoHHAoXAoDALoZALoRApHAoZAoJAoSINpHINpADoDADoTAoZEoEYNoXHEYNoFAoVAq ALTERNATE FORMoQAFoKAF
pHAFoGAFoLAMoMIMoNUNoUMoWAWoOWoEWoHAYoYOToET>10EABhCOMBINING HAMZA MARKrMADDA MARKhHYPHENATION MARK
>10EB0hLETTER LAM WITH DOT ABOVEoYOT WITH CIRCUMFLEX ABOVE>10F00aOLD SOGDIAN LETTER ALEPH
tFINAL ALEPHtBETHtFINAL BETHtGIMELtHEtFINAL HEtWAWtZAYINtHETHtYODHtKAPHtLAMEDHtMEMtNUNtFINAL NUN
â WITH VERTICAL TAILtSAMEKHtAYINuLTERNATE AYINtPEtSADHEtFINAL SADHEä WITH VERTICAL TAIL
tRESH-AYIN-DALETHtSHINtTAWtFINAL TAWâ WITH VERTICAL TAILmNUMBER ONEtTWOuHREEtFOURuIVEtTENuWENTY
uHIRTYtONE HUNDREDmFRACTION ONE HALFmLIGATURE AYIN-DALETH>10F30aSOGDIAN LETTER ALEPHpBETHpGIMELpHE
pWAWpZAYINpHETHpYODHpKAPHpLAMEDHpMEMpNUNpSAMEKHpAYINpPEpSADHEpRESH-AYINpSHINpTAWpFETHpLESH
iINDEPENDENT SHINiCOMBINING DOT BELOWsTWO DOTS BELOWsDOT ABOVEsTWO DOTS ABOVEsCURVE ABOVEyBELOW
sHOOK ABOVExBELOWsLONG HOOK BELOWsRESH BELOWsSTROKE BELOWiNUMBER ONEpTENqWENTYpONE HUNDRED
iPUNCTUATION TWO VERTICAL BARSë WITH DOTSuCIRCLE WITH DOTuTWO CIRCLES WITH DOTSuHALF CIRCLE WITH DOT
>10F70aOLD UYGHUR LETTER ALEPHsBETHsGIMEL-HETHsWAWsZAYINsFINAL HETHsYODHsKAPHsLAMEDHsMEMsNUNsSAMEKH
sPEsSADHEsRESHsSHINsTAWsLESHlCOMBINING DOT ABOVEzBELOWvTWO DOTS ABOVEäBELOWlPUNCTUATION BARxTWO BARS
áDOTSxFOUR DOTS>10FB0aCHORASMIAN LETTER ALEPHsSMALL ALEPHsBETHsGIMELsDALETHsHEsWAWsCURLED WAWsZAYIN
sHETHsYODHsKAPHsLAMEDHsMEMsNUNsSAMEKHsAYINsPEsRESHsSHINsTAWlNUMBER ONEsTWOtHREEsFOURsTENtWENTY
sONE HUNDRED>10FE0aELYMAIC LETTER ALEPHpBETHpGIMELpDALETHpHEpWAWpZAYINpHETHpTETHpYODHpKAPHpLAMEDH
pMEMpNUNpSAMEKHpAYINpPEpSADHEpQOPHpRESHpSHINpTAWjIGATURE ZAYIN-YODH>11000aBRAHMI SIGN CANDRABINDU
mANUSVARAmVISARGAmJIHVAMULIYAmUPADHMANIYAhLETTER ApAoIpIoUpUoVOCALIC RxRwLxLoEoAIoOoAUoKApHAoGApHA
oNGAoCApHAoJApHAoNYAoTTAqHAoDDAqHAoNNAoTApHAoDApHAoNAoPApHAoBApHAoMAoYAoRAoLAoVAoSHApSApAoHAoLLA
oOLD TAMIL LLLAyRRAyNNNAhVOWEL SIGN AAsBHATTIPROLU AAsItIsUtUsVOCALIC RáRàLáLsEsAIsOsAUiIRAMAhDANDA
iOUBLE DANDAhPUNCTUATION DOTvUBLE DOTtLINEtCRESCENT BARtLOTUS>11052hNUMBER ONEoTWOpHREEoFOURpIVEoSIX
pEVENoEIGHToNINEoTENpWENTYpHIRTYoFORTYpIFTYoSIXTYpEVENTYoEIGHTYoNINETYoONE HUNDREDsTHOUSAND
hDIGIT ZEROnONEnTWOoHREEnFOURoIVEnSIXoEVENnEIGHTnNINEhSIGN OLD TAMIL VIRAMAhLETTER OLD TAMIL SHORT E
äOhVOWEL SIGN OLD TAMIL SHORT EèOhLETTER OLD TAMIL LLA>1107FhNUMBER JOINERaKAITHI SIGN CANDRABINDU
mANUSVARAmVISARGAhLETTER ApAoIpIoUpUoEoAIoOoAUoKApHAoGApHAoNGAoCApHAoJApHAoNYAoTTAqHAoDDAqDHAqHAoRHA
oNNAoTApHAoDApHAoNAoPApHAoBApHAoMAoYAoRAoLAoVAoSHApSApAoHAhVOWEL SIGN AAsItIsUtUsEsAIsOsAU
hSIGN VIRAMAmNUKTAhABBREVIATION SIGNhENUMERATION SIGNhNUMBER SIGNhSECTION MARKhDOUBLE SECTION MARK
iANDAiOUBLE DANDAhVOWEL SIGN VOCALIC R>110CDhNUMBER SIGN ABOVE>110D0aSORA SOMPENG LETTER SAHuTAHuBAH
uCAHuDAHuGAHuMAHuNGAHuLAHuNAHuVAHuPAHuYAHuRAHuHAHuKAHuJAHuNYAHuAHuEEHuIHuUHuOHuEHuMAE>110F0
nDIGIT ZEROtONEtTWOuHREEtFOURuIVEtSIXuEVENtEIGHTtNINE>11100aCHAKMA SIGN CANDRABINDUmANUSVARAmVISARGA
hLETTER AAoIoUoEoKAApHAAoGAApHAAoNGAAoCAApHAAoJAApHAAoNYAAoTTAAqHAAoDDAAqHAAoNNAAoTAApHAAoDAApHAA
oNAAoPAApHAAoBAApHAAoMAAoYYAApAAoRAAoLAAoWAAoSAAoHAAhVOWEL SIGN AsItIsUtUsEsAIsOsAUsOIhO MARK
hAU MARKhVIRAMAhMAAYYAA>11136hDIGIT ZEROnONEnTWOoHREEnFOURoIVEnSIXoEVENnEIGHTnNINEhSECTION MARK
hDANDAiOUBLE DANDAhQUESTION MARKhLETTER LHAAhVOWEL SIGN AAsEIhLETTER VAA>11150aMAHAJANI LETTER AqIqU
qEqOqKArHAqGArHAqCArHAqJArHAqNYAqTTAsHAqDDAsHAqNNAqTArHAqDArHAqNAqPArHAqBArHAqMAqRAqLAqVAqSAqHAqRRA
jSIGN NUKTAjABBREVIATION SIGNjSECTION MARKjLIGATURE SHRI>11180aSHARADA SIGN CANDRABINDUnANUSVARA
nVISARGAiLETTER AqApIqIpUqUpVOCALIC RyRxLyLpEpAIpOpAUpKAqHApGAqHApNGApCAqHApJAqHApNYApTTArHApDDArHA
pNNApTAqHApDAqHApNApPAqHApBAqHApMApYApRApLAqLApVApSHAqSAqApHAiVOWEL SIGN AAtIuItUuUtVOCALIC RâRáLâL
tEtAItOtAUiSIGN VIRAMAnAVAGRAHAnJIHVAMULIYAnUPADHMANIYAiOMiDANDAjOUBLE DANDAiABBREVIATION SIGN
iSEPARATORjANDHI MARKjIGN NUKTAiVOWEL MODIFIER MARKiEXTRA SHORT VOWEL MARKiSUTRA MARK
iVOWEL SIGN PRISHTHAMATRA EiSIGN INVERTED CANDRABINDUiDIGIT ZEROoONEoTWOpHREEoFOURpIVEoSIXpEVEN
oEIGHToNINEiEKAMiSIGN SIDDHAMiHEADSTROKEiCONTINUATION SIGNiSECTION MARK-1v2>111E1
bINHALA ARCHAIC DIGIT ONEwTWOxHREEwFOURxIVEwSIXxEVENwEIGHTwNINEqNUMBER TENyWENTYyHIRTYxFORTYyIFTY
xSIXTYyEVENTYxEIGHTYxNINETYxONE HUNDREDáTHOUSAND>11200aKHOJKI LETTER ApAoIoUoEoAIoOoAUoKApHAoGApGA
pHAoNGAoCApHAoJApJA>11213oNYAoTTAqHAoDDAqHAoNNAoTApHAoDApDDApHAoNAoPApHAoBApBApHAoMAoYAoRAoLAoVAoSA
oHAoLLAhVOWEL SIGN AAsItIsUsEsAIsOsAUhSIGN ANUSVARAmVIRAMAmNUKTAmSHADDAhDANDAiOUBLE DANDA
hWORD SEPARATORhSECTION MARKhDOUBLE SECTION MARKhABBREVIATION SIGNhSIGN SUKUN>11280aMULTANI LETTER A
pIpUpEpKAqHApGA>11288qHA>1128ApCAqHApJAqJA>1128FpNYApTTArHApDDArDArHApNNApTAqHApDAqHApNApPAqHApBA
>1129FqHApMApYApRApLApVApSApHApRRAqHAiSECTION MARK>112B0aKHUDAWADI LETTER AsArIsIrUsUrErAIrOrAUrKA
sHArGAsGAsHArNGArCAsHArJAsJAsHArNYArTTAtHArDDAtDArRRArDDHArNNArTAsHArDAsHArNArPAsHArBAsBAsHArMArYA
rRArLArVArSHAsArHAkSIGN ANUSVARAkVOWEL SIGN AAvIwIvUwUvEvAIvOvAUkSIGN NUKTApVIRAMA>112F0kDIGIT ZERO
qONEqTWOrHREEqFOURrIVEqSIXrEVENqEIGHTqNINE>11300aGRANTHA SIGN COMBINING ANUSVARA ABOVEoANDRABINDU
nANUSVARAnVISARGA>11305iLETTER AqApIqIpUqUpVOCALIC RxL>1130FpEEpAI>11313pOOpAUpKAqHApGAqHApNGApCAqHA
pJAqHApNYApTTArHApDDArHApNNApTAqHApDAqHApNA>1132ApPAqHApBAqHApMApYApRA>11332pLAqLA>11335pVApSHAqSAqA
pHA>1133BaCOMBINING BINDU BELOWaGRANTHA SIGN NUKTAnAVAGRAHAiVOWEL SIGN AAtIuItUuUtVOCALIC RâR>11347
tEEtAI>1134BtOOtAUiSIGN VIRAMA>11350iOM>11357iAU LENGTH MARK>1135DiSIGN PLUTAiLETTER VEDIC ANUSVARA
vDOUBLE ANUSVARAqOCALIC RRxLLiVOWEL SIGN VOCALIC LâL>11366aCOMBINING GRANTHA DIGIT ZEROyONEyTWOzHREE
yFOURzIVEySIX>11370sLETTER AzKAzNAzVIzPA>11400aNEWA LETTER AnAmInImUnUmVOCALIC RvRuLvLmEmAImOmAUmKA
nHAmGAnHAmNGAoHAmCAnHAmJAnHAmNYAoHAmTTAoHAmDDAoHAmNNAmTAnHAmDAnHAmNAnHAmPAnHAmBAnHAmMAnHAmYAmRAnHA
mLAnHAmWAmSHAnSAnAmHAfVOWEL SIGN AAqIrIqUrUqVOCALIC RzRyLzLqEqAIqOqAUfSIGN VIRAMAkCANDRABINDU
kANUSVARAkVISARGAkNUKTAkAVAGRAHAkFINAL ANUSVARAfOMfSIDDHIfDANDAgOUBLE DANDAfCOMMAfGAP FILLER
fABBREVIATION SIGNfDIGIT ZEROlONElTWOmHREElFOURmIVElSIXmEVENlEIGHTlNINEgOUBLE COMMAfPLACEHOLDER MARK
>1145DfINSERTION SIGNfSANDHI MARKfLETTER VEDIC ANUSVARAfSIGN JIHVAMULIYAkUPADHMANIYA>11480
aTIRHUTA ANJIiLETTER AqApIqIpUqUpVOCALIC RyRxLyLpEpAIpOpAUpKAqHApGAqHApNGApCAqHApJAqHApNYApTTArHA
pDDArHApNNApTAqHApDAqHApNApPAqHApBAqHApMApYApRApLApVApSHAqSAqApHAiVOWEL SIGN AAtIuItUuUtVOCALIC RâR
áLâLtEtSHORT EtAItOtSHORT OtAUiSIGN CANDRABINDUnANUSVARAnVISARGApRAMAnNUKTAnAVAGRAHAiGVANG
iABBREVIATION SIGNiOM>114D0iDIGIT ZEROoONEoTWOpHREEoFOURpIVEoSIXpEVENoEIGHToNINE>11580
aSIDDHAM LETTER AqApIqIpUqUpVOCALIC RyRxLyLpEpAIpOpAUpKAqHApGAqHApNGApCAqHApJAqHApNYApTTArHApDDArHA
pNNApTAqHApDAqHApNApPAqHApBAqHApMApYApRApLApVApSHAqSAqApHAiVOWEL SIGN AAtIuItUuUtVOCALIC RâR>115B8tE
tAItOtAUiSIGN CANDRABINDUnANUSVARAnVISARGApRAMAnNUKTAnSIDDHAMiDANDAjOUBLE DANDAiSEPARATOR DOTsBAR
iREPETITION MARK-1y2y3iEND OF TEXT MARKiSECTION MARK WITH TRIDENT AND U-SHAPED ORNAMENTS
ìDOTTED CRESCENTSàRAYS AND DOTTED CRESCENTSðDOUBLE CRESCENTSðTRIPLE CRESCENTSvDOUBLE RINGæ WITH RAYS
vWITH DOUBLE CRESCENTSàTRIPLE CRESCENTSàQUADRUPLE CRESCENTSàSEPTUPLE CRESCENTSàCIRCLES AND RAYS
ìTWO ENCLOSURESìFOUR ENCLOSURESiLETTER THREE-CIRCLE ALTERNATE IqWO-CIRCLE ALTERNATE IëIpALTERNATE U
iVOWEL SIGN ALTERNATE UäU>11600aMODI LETTER AnAmInImUnUmVOCALIC RvRuLvLmEmAImOmAUmKAnHAmGAnHAmNGAmCA
nHAmJAnHAmNYAmTTAoHAmDDAoHAmNNAmTAnHAmDAnHAmNAmPAnHAmBAnHAmMAmYAmRAmLAmVAmSHAnSAnAmHAmLLA
fVOWEL SIGN AAqIrIqUrUqVOCALIC RzRyLzLqEqAIqOqAUfSIGN ANUSVARAkVISARGAmRAMAkARDHACANDRAfDANDA
gOUBLE DANDAfABBREVIATION SIGNfSIGN HUVA>11650fDIGIT ZEROlONElTWOmHREElFOURmIVElSIXmEVENlEIGHTlNINE
>11660cNGOLIAN BIRGA WITH ORNAMENTkROTATED BIRGAkDOUBLE BIRGA WITH ORNAMENT
kTRIPLE BIRGA WITH ORNAMENTkBIRGA WITH DOUBLE ORNAMENTkROTATED BIRGA WITH ORNAMENTãDOUBLE ORNAMENT
kINVERTED BIRGAy WITH DOUBLE ORNAMENTkSWIRL BIRGAv WITH ORNAMENTáDOUBLE ORNAMENT
kTURNED SWIRL BIRGA WITH DOUBLE ORNAMENT>11680aTAKRI LETTER AoAnIoInUoUnEnAInOnAUnKAoHAnGAoHAnNGAnCA
oHAnJAoHAnNYAnTTApHAnDDApHAnNNAnTAoHAnDAoHAnNAnPAoHAnBAoHAnMAnYAnRAnLAnVAnSHAoAnHAnRRAgSIGN ANUSVARA
lVISARGAgVOWEL SIGN AArIsIrUsUrErAIrOrAUgSIGN VIRAMAlNUKTAgLETTER ARCHAIC KHAgABBREVIATION SIGN
>116C0gDIGIT ZEROmONEmTWOnHREEmFOURnIVEmSIXnEVENmEIGHTmNINE>11700aAHOM LETTER KAnHAmNGAnAmTA
mALTERNATE TAmPAnHAmBAmMAmJAmCHAmTHAmRAmLAmSAmNYAmHAmAmDAnHAmGAmALTERNATE GAmGHAmBHAmJHA
mALTERNATE BA>1171DfCONSONANT SIGN MEDIAL LAáRAáLIGATING RAfVOWEL SIGN ArAqIrIqUrUqEqAWqOqAIrM
fSIGN KILLER>11730fDIGIT ZEROlONElTWOmHREElFOURmIVElSIXmEVENlEIGHTlNINEfNUMBER TENnWENTY
fSIGN SMALL SECTIONlECTIONkRULAIgYMBOL VIfLETTER CAmTTAoHAmDDAoHAmNNAmLLA>11800aDOGRA LETTER AoAnIoI
nUoUnEnAInOnAUnKAoHAnGAoHAnNGAnCAoHAnJAoHAnNYAnTTApHAnDDApHAnNNAnTAoHAnDAoHAnNAnPAoHAnBAoHAnMAnYAnRA
nLAnVAnSHAoSAoAnHAnRRAgVOWEL SIGN AArIsIrUsUrVOCALIC RàRrErAIrOrAUgSIGN ANUSVARAlVISARGAnRAMAlNUKTA
gABBREVIATION SIGN>118A0aWARANG CITI CAPITAL LETTER NGAAáAáWIáYUâAâOáIIáUUáEáOáANGáGAáKOáENYáYUJáUC
áENNáODDáTTEáNUNGáDAáATâMáBUáPUáHIYOâOLOãRRâARáSSUUâIIáVIYOmSMALL LETTER NGAAzAzWIzYUàAàOzIIzUUzEzO
zANGzGAzKOzENYzYUJzUCzENNzODDzTTEzNUNGzDAzATàMzBUzPUzHIYOàOLOáRRàARzSSUUàIIzVIYOmDIGIT ZEROsONEsTWO
tHREEsFOURtIVEsSIXtEVENsEIGHTsNINEmNUMBER TENuWENTYuHIRTYtFORTYuIFTYtSIXTYuEVENTYtEIGHTYtNINETY
>118FFmOMaDIVES AKURU LETTER AuAtIuItUuUtE>11909tO>1190CtKAuHAtGAuHAtNGAtCAuHAtJA>11915tNYAtTTA
>11918tDDAvHAtNNAtTAuHAtDAuHAtNAtPAuHAtBAuHAtMAtYAuYAtRAtLAtVAtSHAuSAuAtHAtLLAtZAmVOWEL SIGN AAxIyI
xUyUxE>11937xAIxO>1193BmSIGN ANUSVARArCANDRABINDUrHALANTAmVIRAMAmPREFIXED NASAL SIGNmMEDIAL YA
mINITIAL RAmMEDIAL RAmSIGN NUKTAmDOUBLE DANDAmGAP FILLERmEND OF TEXT MARK>11950mDIGIT ZEROsONEsTWO
tHREEsFOURtIVEsSIXtEVENsEIGHTsNINE>119A0aNANDINAGARI LETTER AuAtIuItUuUtVOCALIC RâR>119AAtEtAItOtAU
tKAuHAtGAuHAtNGAtCAuHAtJAuHAtNYAtTTAvHAtDDAvHAtNNAtTAuHAtDAuHAtNAtPAuHAtBAuHAtMAtYAtRAtLAtVAtSHAuSA
uAtHAtLLAtRRAmVOWEL SIGN AAxIyIxUyUxVOCALIC RæR>119DAxExAIxOxAUmSIGN ANUSVARArVISARGAtRAMArAVAGRAHA
rSIDDHAMmHEADSTROKEmVOWEL SIGN PRISHTHAMATRA E>11A00aZANABAZAR SQUARE LETTER ArVOWEL SIGN IâUEãâEâOE
ãâAIãUâREVERSED IxLENGTH MARKrLETTER KAzHAyGAzHAyNGAyCAzHAyJAyNYAyTTAàHAyDDAàHAyNNAyTAzHAyDAzHAyNA
yPAzHAyBAzHAyMAyTSAàHAyDZAàHAyZHAzAy-AyYAyRAyLAyVAySHAzSAzAyHAyKSSArFINAL CONSONANT MARKrSIGN VIRAMA
wCANDRABINDUç WITH ORNAMENTâ WITH ORNAMENTwANUSVARAwVISARGArCLUSTER-INITIAL LETTER RA
zFINAL LETTER YAìRAìLAìVArINITIAL HEAD MARKrCLOSING HEAD MARKrMARK TSHEGwSHADwDOUBLE SHADwLONG TSHEG
rINITIAL DOUBLE-LINED HEAD MARKrCLOSING DOUBLE-LINED HEAD MARKrSUBJOINER>11A50aSOYOMBO LETTER A
iVOWEL SIGN ItUEutEtOuEtAIuUtVOCALIC RáLoLENGTH MARKiLETTER KAqHApGAqHApNGApCAqHApJAqHApNYApTTArHA
pDDArHApNNApTAqHApDAqHApNApPAqHApBAqHApMApTSArHApDZApZHAqAp-ApYApRApLApVApSHAqSAqApHApKSSA
iSIGN JIHVAMULIYAnUPADHMANIYAiCLUSTER-INITIAL LETTER RAåLAåSHAæAiFINAL CONSONANT SIGN GãKãNGãDãNãBãM
ãRãLãSHäã-AiSIGN ANUSVARAnVISARGAiGEMINATION MARKiSUBJOINERiMARK TSHEGnSHADnDOUBLE SHADnPLUTA
iHEAD MARK WITH MOON AND SUN AND TRIPLE FLAMEîFLAMEéiTERMINAL MARK-1w2>11AB0
aCANADIAN SYLLABICS NATTILIK HIäIãOäOãAäAâSHRIæIåOæOåAæAtSPEvIvOvAaPAU CIN HAU LETTER PAtKAtLAtMAtDA
tZAtVAtNGAtHAtGAtKHAtSAtBAtCAtTAuHAtNAtPHAtRAtFAtCHAtAtEtItOtUuAtIAtFINAL PzKzTzMzNzLzWzNGzY
mRISING TONE LONGxmSANDHI GLOTTAL STOPmRISING TONE LONG FINALyFINALmSANDHI GLOTTAL STOP FINAL
tTONE LONGxx LONG FINALyFINALmMID-LEVEL TONEmGLOTTAL STOP VARIANTmMID-LEVEL TONE LONG FINALáFINAL
mLOW-FALLING TONE LONGâmGLOTTAL STOPmLOW-FALLING TONE LONG FINALãFINALmGLOTTAL STOP FINAL>11C00
aBHAIKSUKI LETTER AsArIsIrUsUrVOCALIC RàRzL>11C0ArErAIrOrAUrKAsHArGAsHArNGArCAsHArJAsHArNYArTTAtHA
rDDAtHArNNArTAsHArDAsHArNArPAsHArBAsHArMArYArRArLArVArSHAsSAsArHAkVOWEL SIGN AAvIwIvUwUvVOCALIC RäR
ãL>11C38vEvAIvOvAUkSIGN CANDRABINDUpANUSVARApVISARGArRAMApAVAGRAHAkDANDAlOUBLE DANDAkWORD SEPARATOR
kGAP FILLER-1v2>11C50kDIGIT ZEROqONEqTWOrHREEqFOURrIVEqSIXrEVENqEIGHTqNINEkNUMBER ONErTWOsHREErFOUR
sIVErSIXsEVENrEIGHTrNINErTENsWENTYsHIRTYrFORTYsIFTYrSIXTYsEVENTYrEIGHTYrNINETYkHUNDREDS UNIT MARK
>11C70aMARCHEN HEAD MARKiMARK SHADiLETTER KAqHApGApNGApCAqHApJApNYApTAqHApDApNApPAqHApBApMApTSArHA
pDZApWApZHAqAp-ApYApRApLApSHAqApHApA>11C92iSUBJOINED LETTER KAàHAzGAzNGAzCAàHAzJAzNYAzTAàHAzDAzNAzPA
àHAzBAzMAzTSAáHAzDZAzWAzZHAàA>11CA9zYAzRAzLAzSHAàAzHAzAiVOWEL SIGN AAtItUtEtOiSIGN ANUSVARA
nCANDRABINDU>11D00cSARAM GONDI LETTER AwAvIwIvUwUvE>11D08vAIvO>11D0BvAUvKAwHAvGAwHAvNGAvCAwHAvJAwHA
vNYAvTTAxHAvDDAxHAvNNAvTAwHAvDAwHAvNAvPAwHAvBAwHAvMAvYAvRAvLAvVAvSHAwSAwAvHAvLLAvKSSAvJNYAvTRA
oVOWEL SIGN AAzIàIzUàUzVOCALIC R>11D3AzE>11D3CzAIzO>11D3FzAUoSIGN ANUSVARAtVISARGAtNUKTAtCANDRA
tHALANTAoVIRAMAoREPHApA-KARA>11D50oDIGIT ZEROuONEuTWOvHREEuFOURvIVEuSIXvEVENuEIGHTuNINE>11D60
aGUNJALA GONDI LETTER AwAvIwIvUwU>11D67vEEvAI>11D6AvOOvAUvYAvVAvBAwHAvMAvKAwHAvTAwHAvLAvGAwHAvDAwHA
vNAvCAwHAvTTAxHAvLLAvJAwHAvDDAxHAvNGAvPAwHAvHAvRAvSAoVOWEL SIGN AAzIàIzUàU>11D90zEEzAI>11D93zOOzAU
oSIGN ANUSVARAtVISARGAoVIRAMAoOM>11DA0oDIGIT ZEROuONEuTWOvHREEuFOURvIVEuSIXvEVENuEIGHTuNINE>11EE0
aMAKASAR LETTER KApGApNGApPApBApMApTApDApNApCApJApNYApYApRApLApVApSApAiANGKAiVOWEL SIGN ItUtEtO
iPASSIMBANGiEND OF SECTION>11FB0aLISU LETTER YHA>11FC0
aTAMIL FRACTION ONE THREE-HUNDRED-AND-TWENTIETHtONE-HUNDRED-AND-SIXTIETHtEIGHTIETHtSIXTY-FOURTH
tFORTIETHtTHIRTY-SECONDpTHREE EIGHTIETHSvSIXTY-FOURTHSpONE TWENTIETHtSIXTEENTH-1ã2tTENTHtEIGHTH
pTHREE TWENTIETHSvSIXTEENTHSpONE FIFTHtQUARTERtHALF-1y2pTHREE QUARTERSpDOWNSCALING FACTOR KIIZH
gSIGN NELlCEVITUlAAZHAAKKUlUZHAKKUlMUUVUZHAKKUlKURUNIlPATHAKKUlMUKKURUNIlKAACUlPANAMmONlVARAAKAN
lPAARAMlKUZHIlVELIgWET CULTIVATION SIGNgDRY CULTIVATION SIGNgLAND SIGNgSALT PAN SIGN
gTRADITIONAL CREDIT SIGNsNUMBER SIGNgCURRENT SIGNgAND ODD SIGNgSPENT SIGNgTOTAL SIGN
gIN POSSESSION SIGNgSTARTING FROM SIGNhIGN MUTHALIYAlVAKAIYARAA>11FFFgPUNCTUATION END OF TEXT
aCUNEIFORM SIGN Aq TIMES AxBADxGAN2 TENUxHAxIGIxLAGAR GUNUxMUSHxSAGq2qBr TIMES ASH2yDUN3 GUNUyGAL
àN2 TENUyHAyIGI GUNUzMINyLAGABySHESHyU PLUS U PLUS UsGUNUr2s TIMES BALAGzGAN2 TENUzME PLUS ENzSHA3
zTAK4qDqKr TIMES ERIN2ySHITA PLUS GISHqLr TIMES ALyDIM2yGISHyHAyKAD3zIySHEyUSHrANrEPHqMARt TIMES SHE
qNr OVER ANsTHREE TIMESsPLUS NAGA OPPOSING AN PLUS NAGAâSQUAREDrSHEqPINqRADt TIMES KURrKABqSAL2rH
s ZIDA TENUtKABA TENUtOVER ASH TUG2 OVER TUG2 TUG2 OVER TUG2 PAPâOVER ASH
ê CROSSING ASH OVER ASH OVER ASHs2sGABpBArDrG3rHAR2rLs OVER BALsAGrRsA2qIr TIMES AyGARyIGI GUNUqU
r OVER BU ABàUNsCROSSING BUrLUGu OVER BULUGrRs2pDArGs KISIM5 TIMES A PLUS MASHçMARæBALAGçIæGA
è PLUS MASHçIèR2çUDæHAæIRè PLUS LUæKAKæLAçUè PLUS MASH2èMæNEæPAP PLUS PAPæSIæTAK4æU2 PLUS GIR2çSHrM
rRsA3t4qIrBrMs TIMES SHEs2rNs KASKAL U GUNU DISHrSHqUr OVER DUsGUNUsSHESHIGrBs TIMES ESH2s2rGsUDrHrN
s3t GUNUy GUNUs4rR2pEq TIMES PAPrOVER E NUN OVER NUNq2r TIMES A PLUS HA PLUS DAyGARyMIySALzHEyUqDIN
qGIRqLqNr TIMES GAN2â TENUyMEsCROSSING ENsOPPOSING ENsSQUAREDqRENrIN2qSH2qZENt TIMES Aá PLUS LAL
ê TIMES LALáNàBADàDUN3 GUNUé GUNUàHAâ GUNUàIGI GUNUàKASKALæ SQUAREDáU3àLAâL TIMES LALáIáUàU2áDpGA
r GUNUr2s TIMES A PLUS DA PLUS HAæHAæIGIàB2 TENU PLUS TABàNàSHâ2 PLUS GALzBADáR PLUS RAàURâ PLUS RA
zDAàIáM TIMES SHEàUBzELá PLUS LAàNá TIMES GAN2 TENUzGAN2 TENUáRàIá4â PLUS AáR2 PLUS SU
zHA PLUS LU PLUS ESH2áLâ PLUS LAàI PLUS LIàUB2zIGI GUNUàSH PLUS HU PLUS ASHzKAKáSKALàIDâ PLUS LAL
àU3 PLUS ANzLAzME PLUS ENàIzNUNâ OVER NUNzPAzSALáRàHEâ PLUS TURáIDàUMzTAK4zUàDá PLUS DUtOVER GA2rBA
t CROSSING GABArDs OVER GAD GAR OVER GARrLs GAD OVER GAD GAR OVER GARsAMrMrNs2t TENUuOVER GAN2
uCROSSING GAN2rRs3rSHANqESHTINw TIMES KURqIr TIMES EyUsCROSSING GIr4s OVER GI4tCROSSING GI4rDIMrR2
t GUNUs3t TIMES A PLUS IGIàGAN2 TENUàIGIàLU PLUS IGIàPArSALsHt CROSSING GISHuTIMES BADàTAK4vENUqU
r CROSSING GUr2s TIMES KAKâ TIMES IGI GUNUzNUNzSAL PLUS TUG2tGUNUrDs TIMES A PLUS KURzKUR
tOVER GUD LUGALrLrMs TIMES SHErRs7sUNtSHpHAr TENUsGUNUrLqIr TIMES ASHá2yBADyDISHyGADyKINyNUNySHEyUqU
rB2t TIMES ANàHALàKASKALàLISHàUDrL2pIq AqBqDIMt OVER IDIM BURäSQUAREDqGrIs DIBtRI
tOVER IGI SHIR OVER SHIR UD OVER UDtGUNUqLr TIMES GAN2 TENUr2qMr TIMES TAK4sCROSSING IMsOPPOSING IM
sSQUAREDrINqNqRqSHpKAr TIMES AzDà PLUS KU3zSH2yBADàLAGàRzIyERIN2zSH2yGAàLàN2 TENUàR
á PLUS SHA3 PLUS AzIàR2àSH PLUS SARãCROSSING GISHzUàR7yIGIzMyKAKzIàDyLIzUyMEà PLUS DUæGIæTEzI
à PLUS NUNUZyNEzUNyPIyRUySAàRzHAàEàIDàUzIGzUHURyTARyUz2zDzMUM TIMES PAzSHyZIr2s CROSSING KA2rBrD2s3
s4s5t OVER KAD5rKs TIMES IGI GUNUrLs TIMES BADtCROSSING KALrM2s4rSKAL
v LAGAB TIMES U OVER LAGAB TIMES UwOVER KASKAL LAGAB TIMES U OVER LAGAB TIMES UqESH2qIr TIMES BADyU
zDrDrNrSALsHsIM5v OVER KISIM5qUr OVER HI TIMES ASH2 KU OVER HI TIMES ASH2r3r4s VARIANT FORMr7rL
s GUNUrNrRs OPPOSING KURrSHU2qWU318pLArGABu TIMES Aâ PLUS DA PLUS HAèGARèLALâLâNâSH ZIDA TENUáBADâI
áDARáENáGAãRâUDä PLUS GUDáHAãLâI TIMES NUNáIGI GUNUâMã PLUS HAéLUáKIãNâU3ãLä PLUS HI PLUS AáLAGAB
âISHâUãLáMEã PLUS ENâUSHáNEáSHE PLUS SUMãITA PLUS GISH PLUS ERIN2ñTENUãU2å PLUS SHU2âUMáTAGãK4
âE PLUS A PLUS SU PLUS NAáUâ PLUS AèU PLUS Uâ2 PLUS ASHâDâSHvSQUAREDtRu TIMES SHEä PLUS SUMvGUNU
z OVER LAGAR GUNU SHErHSHUrLs TIMES LALrMs TIMES KURâ PLUS RUqIrLrMMU2rSHqUr TIMES BADr2s TIMES AL
zBADzESH2ã TENUzGAN2 TENUzHI TIMES BADzIMzKAD2â3ã PLUS ASHàIzLA PLUS ASHáGABzME PLUS ENzNEàU
zSI PLUS ASHáK2 PLUS BUzTUG2uENUtCROSSING LU2tOPPOSING LU2tSQUAREDuHESHIGr3rGALu OVER LUGAL
wPPOSING LUGALvSHESHIGrHrLrMs OVER LUMá GAR OVER GARpMAr TIMES TAK4sGUNUr2rHrRrSHt2qErSqIrNqU
r OVER MUrGs GUNUrNSUBrRGU2rSHt TIMES AàKURàZAuOVER MUSHã TIMES A PLUS NAuCROSSING MUSHt3u TIMES A
â PLUS DIáDIvGUNUpNAr2rGAt INVERTEDuTIMES SHU TENUuOPPOSING NAGAtRrM NUTILLUss2qEr TIMES AyUD
sSHESHIGqIr TIMES Er2rMs TIMES GAN2 TENUáR PLUS GAN2 TENUrNDA2v TIMES ANãSHå PLUS ASHâGUD
âME PLUS GAN2 TENUâNEãUNâSHEå PLUS A ANìSHî PLUS ASHâU2 PLUS ASHãSHrSAGqUr11rNs LAGAR TIMES GARåMASH
åSALè OVER NUN LAGAR TIMES SALåUSHtTENUtOVER NUNtCROSSING NUNå LAGAR OVER LAGARsUZu AB2 TIMES ASHGAB
åBIåDUGåGUDåIGI GUNUåKAD3åLAåNEåSILA3åU2vKISIM5 TIMES BIê UpPArDrNrPqESH2qIr TIMES AzByBIzUyEyIzByU
z2sCROSSING PIrRIGu TIMES KALáUDáZAvOPPOSING PIRIGpRArBqIqUpSArG NUTILLUss TIMES AzDUáBzHAzKAKàUR
zLUMzMIzNUNzSALàHIDzTABzU2àBàMàRàSHtOVER SAGtGUNUrLs LAGAB TIMES ASH2rNGA2rRqHAs3t TIMES AàBADàGISH
àNEàSHU2àTURàUá PLUS As6sB6sR2rEs HUtOVER SHE GAD OVER GAD GAR OVER GARâTAB OVER TAB GAR OVER GARsG9
sNsSHu2uLAMrIDt TIMES AàIMsMt TIMES AàBALáULUGàDINàGARàIGIã GUNUàKUSHU2àLULàMUGàSALsNIGsRt TENU
uOVER SHIR BUR OVER BURsTArUs OVER INVERTED SHUs2sBURqIr GUNUrGs4t OVER SIG4 SHU2rK2rLA3qUr OVER SU
rDs2rHURrMsASHrRs9pTAr ASTERISKsTIMES HIyMIsGUNUrBs OVER TAB NI OVER NI DISH OVER DISHtSQUAREDrG
s TIMES BIzGUDzSHEáUzTUG2zUDrK4rRqEr GUNUqIr TENUrLrRs TIMES TAK4tOVER TIR
á GAD OVER GAD GAR OVER GARqUrG2rKrMrRs OVER TUR ZA OVER ZApUq GUDrU U
rOVER U PA OVER PA GAR OVER GARySUR OVER SURyU REVERSED OVER U REVERSEDq2qBqDr KUSHU2sTIMES BADyMI
yU PLUS U PLUS Uí GUNUsGUNUsSHESHIGz TIMES BADrUGqMr TIMES LAGAByME PLUS DAySHA3yUrBINrUM
t TIMES KASKALàPAqNr GUNUqRr CROSSING URsSHESHIGr2s TIMES A PLUS HAæNAàLzHAzNUNzU2á PLUS ASHçBIr4rI
s3rUs TIMES AàSHGABzBARzDUNzGAáLáN2 TENUáRàUzHAzIGIàMàSHzKIzLUMzMINzPAzSHEàIG4zTUzU PLUS GUDàDàRUDA
sDAu TIMES UqSHs TIMES AzKUáRzTAK4sXs2sUMXqTUKIqZ3s TIMES KASKALrUpZAr TENUsSQUARED TIMES KURrGrMX
qE2qIr OVER ZIr3rBs KABA TENUrGrZ2qUr5s TIMES ArBURrMpKAP ELAMITEpAB TIMES NUNr2 TIMES A
qMAR TIMES KUGpDAG KISIM5 TIMES U2 PLUS MASHs3qISH PLUS SHUqUB TIMES SHEpEZEN TIMES GUDàSHE
pGA2 TIMES AN PLUS KAK PLUS AàSH2qE22qIGpHUSHpKA TIMES ANSHEzSH3yGISHzUDyHI TIMES ASH2yLUMyPAySHUL
yTUyUR2pLAGAB TIMES GIqU2 SHESHIG TIMES BADtTIMES ESH2 PLUS LALzSHUpMESHqUSH3 TIMES ZApNA4qINs9
sDA2 TIMES BALâGIqU11 ROTATED NINETY DEGREESpPESH2 ASTERISKqIR2pSAG TIMES IGI GUNUpTI2pUM TIMES ME
q U>12400kNUMERIC SIGN TWO ASHyHREE ASHxFOUR ASHyIVE ASHxSIX ASHyEVEN ASHxEIGHT ASHxNINE ASH
xTHREE DISHxFOUR DISHyIVE DISHxSIX DISHyEVEN DISHxEIGHT DISHxNINE DISHxFOUR UyIVE UxSIX UyEVEN U
xEIGHT UxNINE UxONE GESH2xTWO GESH2yHREE GESH2xFOUR GESH2yIVE GESH2xSIX GESH2yEVEN GESH2xEIGHT GESH2
xNINE GESH2xONE GESHUxTWO GESHUyHREE GESHUxFOUR GESHUyIVE GESHUxTWO SHAR2yHREE SHAR2è VARIANT FORM
xFOUR SHAR2yIVE SHAR2xSIX SHAR2yEVEN SHAR2xEIGHT SHAR2xNINE SHAR2xONE SHARUxTWO SHARUyHREE SHARU
è VARIANT FORMxFOUR SHARUyIVE SHARUxSHAR2 TIMES GAL PLUS DISHòMINxONE BURUxTWO BURUyHREE BURU
ç VARIANT FORMxFOUR BURUyIVE BURUxTHREE VARIANT FORM ESH16ó21xFOUR VARIANT FORM LIMMUô4ô AõB
xSIX VARIANT FORM ASH9yEVEN VARIANT FORM IMIN3ô AõBxEIGHT VARIANT FORM USSUô3
xNINE VARIANT FORM ILIMMUõ3õ4õ AxTWO ASH TENUyHREE ASH TENUxFOUR ASH TENUyIVE ASH TENUxSIX ASH TENU
xONE BAN2xTWO BAN2yHREE BAN2xFOUR BAN2æ VARIANT FORMyIVE BAN2æ VARIANT FORMxNIGIDAMINãESHxONE ESHE3
xTWO ESHE3xONE THIRD DISHxTWO THIRDS DISHxFIVE SIXTHS DISHxONE THIRD VARIANT FORM A
xTWO THIRDS VARIANT FORM AxONE EIGHTH ASHáQUARTER ASHyLD ASSYRIAN ONE SIXTHîQUARTERyNE QUARTER GUR
áHALF GURxELAMITE ONE THIRDåTWO THIRDSåFORTYæIFTYxFOUR U VARIANT FORMyIVE U VARIANT FORM
xSIX U VARIANT FORMyEVEN U VARIANT FORMxEIGHT U VARIANT FORMxNINE U VARIANT FORM>12470
kPUNCTUATION SIGN OLD ASSYRIAN WORD DIVIDERáVERTICAL COLONáDIAGONAL COLONêTRICOLONêQUADCOLON>12480
kSIGN AB TIMES NUN TENUySHU2qD TIMES ESH2pBAD TIMES DISH TENUrHAR2 TIMES AB2âNIâZA
qU OVER BU TIMES NA2pDA TIMES TAK4rG TIMES KURqIM TIMES IGIzU U Us2 TIMES UDqUG TIMES ANSHEàSH
â AT LEFTzDINàUNzERIN2zGAàIáR2 GUNUáSHzHAàIzIGI GUNUzKASKALàURáSHU2å PLUS KASKALzLAK-020áM
â TIMES KURàUH PLUS GISHzMASHàESàIzNIzPIzSHEàI GUNUpE2 TIMES KURyPAPqRIN2 XqSH2 CROSSING ESH2
qZEN SHESHIG TIMES ASHèHIèIGI GUNUèLAêLèMEêSèSUuTIMES SUpGA2 TIMES BAHAR2zDIM GUNUàUG TIMES IGI GUNU
éKASKALzERENzGAáR PLUS DIèNEzHA PLUS AzKUSHU2 PLUS KASKALzLAMâ TIMES KURàUHzMUSHzNEá PLUS E2çGIzSHIM
zZIZ2rBA ROTATED NINETY DEGREESqESHTIN TIMES UqISH TIMES GISH CROSSING GISHqU2 TIMES IGI GUNU
rD PLUS GISH TIMES TAK4pHA TENU GUNUqI TIMES ASH OVER HI TIMES ASHpKA TIMES BUyKAyU U UzR
pLAGAB TIMES ZU OVER ZUrK-003u21v5u30u50v1u62u79 OVER LAK-079 GUNUu80v1 OVER LAK-081u92t130u42t210v9
u20v5v8u38u65v6t343v7v8u83v4u90t441v9w TIMES GUãIGIãPAP PLUS LU3ìPAP PLUS LU3ãU2 PLUS BAu50v7u70u83
u90v2v3v5t550t608u17w TIMES ASHãBADãDUN3 GUNU GUNUãKU3ãLAãTARäEãU2äDäRUDAu36u48w TIMES DUBãGAãIGI
æ GUNUãNIãPAP PLUS PAP PLUS LU3ãSHESH PLUS KIãUDäRUDAt724u49qU2 GUNU TIMES ASHtTIMES DISHzHALzPAP
â PLUS PAP PLUS LU3zTAK4pMI PLUS ZA7qUSH OVER MUSH TIMES GAêKAKpNINDA2 TIMES DIM GUNUâGISHãULâHI
âKESH2âLAK-050âMASHâPAP PLUS PAPâUã PLUS UãRUDApSAG GUNU TIMES HAtTIMES ENzSHE AT LEFTzTAK4qHA6 TENU
rE OVER SHEtPLUS HUB2yNAM2ySARrU2 PLUS DUG TIMES NIzE2 TIMES ANqI TIMES TAK4pTAK4 PLUS SAG
qUM TIMES GAN2 TENUzTHREE DISHpUR2 INVERTEDtTIMES UDrU TIMES DARA3zLAK-668àU3pZA7qU OVER ZU PLUS SAR
r5 TIMES THREE DISH TENU>12F90bYPRO-MINOAN SIGN CM001w2w4w5w6w7w8w9v10w1w2xBw3w5w7w9v21w3w4w5w6w7w8
w9v30w3w4w5w6w7w8w9v40w1w4w6w7w9v50w1w2w3w4w5w6w8w9v60w1w2w3w4w6w7w8w9v70w1w2w3w4w5xBw6w8w9v80w1w2w3
w4w5w6w7w8w9v90w1w2w4w5w6w7w8w9u100w1w2w3w4w5w7w8w9v10w2w4u301w2>13000aEGYPTIAN HIEROGLYPH A001x2x3
x4x5yAx6yAyBx7x8x9w10x1x2x3x4yAx5x6x7yAx8x9w20x1x2x3x4x5x6x7x8x9w30x1x2yAx3x4x5x6x7x8x9w40yAx1x2yAx3
yAx4x5yAx6x7x8x9w50x1x2x3x4x5x6x7x8x9w60x1x2x3x4x5x6x7x8x9w70uB001x2x3x4x5yAx6x7x8x9uC001x2yAyByCx3
x4x5x6x7x8x9w10yAx1x2x3x4x5x6x7x8x9w20x1x2x3x4uD001x2x3x4x5x6x7x8yAx9w10x1x2x3x4x5x6x7x8x9w20x1x2x3
x4x5x6x7yAx8x9w30x1yAx2x3x4yAx5x6x7x8x9w40x1x2x3x4x5x6yAx7x8yAx9w50yAyByCyDyEyFyGyHyIx1x2yAx3x4yAx5
x6x7x8x9w60x1x2x3x4x5x6x7yAyByCyDyEyFyGyHuE001x2x3x4x5x6x7x8yAx9yAw10x1x2x3x4x5x6yAx7yAx8x9w20yAx1x2
x3x4x5x6x7x8yAx9w30x1x2x3x4yAx6x7x8uF001yAx2x3x4x5x6x7x8x9w10x1x2x3yAx4x5x6x7x8x9w20x1yAx2x3x4x5x6x7
x8x9w30x1yAx2x3x4x5x6x7yAx8yAx9w40x1x2x3x4x5yAx6yAx7yAx8x9w50x1yAyByCx2x3uG001x2x3x4x5x6yAx7yAyBx8x9
w10x1yAx2x3x4x5x6x7x8x9w20yAx1x2x3x4x5x6yAx7x8x9w30x1x2x3x4x5x6yAx7yAx8x9w40x1x2x3yAx4x5yAx6x7x8x9
w50x1x2x3x4uH001x2x3x4x5x6yAx7x8uI001x2x3x4x5yAx6x7x8x9yAw10yAx1yAx2x3x4x5uK001x2x3x4x5x6x7x8uL001x2
yAx3x4x5x6yAx7x8uM001yAyBx2x3yAx4x5x6x7x8x9w10yAx1x2yAyByCyDyEyFyGyHx3x4x5yAx6yAx7yAx8x9w20x1x2yAx3
x4yAx5x6x7x8yAx9w30x1yAx2x3yAyBx4x5x6x7x8x9w40yAx1x2x3x4uN001x2x3x4x5x6x7x8x9w10x1x2x3x4x5x6x7x8yAyB
x9w20x1x2x3x4x5yAx6x7x8x9w30x1x2x3yAx4yAx5yAx6x7yAx8x9w40x1x2vL001y2y3y4y5zAy6y7y8y9x10y1y2y3y4y5y6
y7zAy8y9x20vU001y2y3y4y5y6y7y8y9x10zAy1zAy2y3y4y5y6y7y8zAy9x20y1y2zAuO001yAx2x3x4x5yAx6yAyByCyDyEyF
x7x8x9w10yAyByCx1x2x3x4x5x6x7x8x9yAw20yAx1x2x3x4yAx5yAx6x7x8x9yAw30yAx1x2x3yAx4x5x6yAyByCyDx7x8x9w40
x1x2x3x4x5x6x7x8x9w50yAyBx1uP001yAx2x3yAx4x5x6x7x8x9w10x1uQ001x2x3x4x5x6x7uR001x2yAx3yAyBx4x5x6x7x8
x9w10yAx1x2x3x4x5x6yAx7x8x9w20x1x2x3x4x5x6x7x8x9uS001x2yAx3x4x5x6yAx7x8x9w10x1x2x3x4yAyBx5x6x7yAx8x9
w20x1x2x3x4x5x6yAyBx7x8x9w30x1x2x3x4x5yAx6x7x8x9w40x1x2x3x4x5x6uT001x2x3yAx4x5x6x7yAx8yAx9yAw10x1yA
x2x3x4x5x6yAx7x8x9w20x1x2x3x4x5x6x7x8x9w30x1x2yAx3yAx4x5x6uU001x2x3x4x5x6yAyBx7x8x9w10x1x2x3x4x5x6x7
x8x9w20x1x2x3yAx4x5x6x7x8x9yAw30x1x2yAx3x4x5x6x7x8x9w40x1x2uV001yAyByCyDyEyFyGyHyIx2yAx3x4x5x6x7yAyB
x8x9w10x1yAyByCx2yAyBx3x4x5x6x7x8x9w20yAyByCyDyEyFyGyHyIyJyKyLx1x2x3yAx4x5x6x7x8yAx9yAw30yAx1yAx2x3
yAx4x5x6x7yAx8x9w40yAuW001x2x3yAx4x5x6x7x8x9yAw10yAx1x2x3x4yAx5x6x7yAx8yAx9w20x1x2x3x4yAx5uX001x2x3
x4yAyBx5x6yAx7x8yAuY001yAx2x3x4x5x6x7x8uZ001x2yAyByCyDx3yAyBx4yAx5yAx6x7x8x9w10x1x2x3x4x5yAyByCyDyE
yFyGyHyIx6yAyByCyDyEyFyGyHuAA001y2y3y4y5y6y7zAzBy8y9x10y1y2y3y4y5y6y7y8y9x20y1y2y3y4y5y6y7y8y9x30y1
y2>13430uVERTICAL JOINERuHORIZONTAL JOINERuINSERT AT TOP STARTäBOTTOM STARTäTOP ENDäBOTTOM END
uOVERLAY MIDDLEuBEGIN SEGMENTuEND SEGMENT>14400aANATOLIAN HIEROGLYPH A001y2y3y4y5y6y7y8y9x10zAy1y2y3
y4y5y6y7y8y9x20y1y2y3y4y5y6zAy7y8y9x30y1y2y3y4y5y6y7y8y9zAx40y1zAy2y3y4y5zAy6zAzBy7y8y9x50y1y2y3y4y5
y6y7y8y9x60y1y2y3y4y5y6zAzBzCy7y8y9x70y1y2y3y4y5y6y7y8y9x80y1y2y3y4y5y6y7y8y9x90y1y2y3y4y5y6y7zAy8zA
y9w100zAy1zAy2zAy3y4zAzBzCy5zAzBy6y7zAzBzCy8y9x10zAzBy1y2y3y4y5zAy6y7y8y9x20y1y2y3y4y5zAy6y7y8y9x30
y1y2y3y4y5zAy6y7y8y9x40y1y2y3y4y5y6y7y8y9x50y1y2y3y4y5y6y7y8y9x60y1y2y3y4y5y6y7y8y9x70y1y2y3y4y5y6y7
y8y9x80y1y2y3y4y5y6y7y8y9x90y1y2y3y4y5y6y7y8y9w200y1y2zAzBy3y4y5y6y7zAy8y9zAx10y1y2y3y4y5zAy6zAy7y8
y9x20y1y2y3y4y5y6y7zAy8y9x30y1y2y3y4y5y6y7y8y9x40y1y2y3y4y5y6y7y8y9x50y1y2y3y4y5y6y7y8y9x60y1y2y3y4
y5y6y7zAy8y9x70y1y2y3y4y5y6y7y8y9x80y1y2y3y4y5y6y7y8y9zAx90y1y2y3y4zAy5y6y7y8y9zAw300y1y2y3y4y5y6y7
y8y9zAx10y1y2y3y4y5y6y7y8y9x20y1y2y3y4y5y6y7y8y9zAx30y1y2AzBzCy3y4y5y6zAzBzCy7y8y9x40y1y2y3y4y5y6y7
y8y9x50y1y2y3y4y5y6y7y8y9zAx60y1y2y3y4zAy5y6y7y8zAy9x70y1zAy2y3y4y5y6y7y8y9x80y1zAy2y3 RA OR RIzAy4
y5y6zAy7y8y9x90y1y2y3 EIGHTy4y5y6y7y8y9w400y1y2y3y4y5y6y7y8y9x10 BEGIN LOGOGRAM MARK
zA END LOGOGRAM MARKy1y2y3y4y5y6y7y8y9x20y1y2y3y4y5y6y7y8y9x30y1y2y3y4y5y6y7y8y9x40y1y2y3y4y5y6y7y8
y9x50zAy1y2y3y4y5y6y7zAy8y9x60y1y2y3y4y5y6y7y8y9x70y1y2y3y4y5y6y7y8y9x80y1y2y3y4y5y6y7y8y9x90y1y2y3
y4y5y6y7w501y2y3y4y5y6y7y8y9x10y1y2y3y4y5y6y7y8y9x20y1y2y3y4y5y6y7y8y9x30>16800
aBAMUM LETTER PHASE-A NGKUE MFONvGBIEE FONvPON MFON PIPAEMGBIEEêBAvNAA MFONvSHUENSHUETvTITA MFON
vNZA MFONvSHINDA PA NJIvPON PA NJI PIPAEMGBIEEìBAvMAEMBGBIEEvTU MAEMBAvNGANGUvMAEMVEUXxNSUAE
wVEUAENGAMvSEUNYAMvNTOQPENvKEUKEUTNDAvNKINDIvSUUvNGKUENZEUMvLAPAQwET KUTvNTAP MFAAvMAEKEUPvPASHAE
vGHEUAERAEvPAMSHAEvMON NGGEUAETvNZUN MEUTvU YUQ NAEvGHEUAEGHEUAEvNTAP NTAAvSISAvMGBASAwEUNJOMNDEUQ
wOOMPUQvKAFAvPA LEERAEWAvNDA LEERAEWAvPETvMAEMKPENvNIKAvPUPvTUAEPvLUAEPvSONJAMvTEUTEUWENvMAENYIvKET
vNDAANGGEUAETvKUOQvMOOMEUTvSHUMvLOMMAEvFIRIvROMvKPOQvSOQvMAP PIEETvSHIRAEvNTAPvSHOQ NSHUT YUM
vNYIT MONGKEUAEQvPAARAEvNKAARAEvUNKNOWNvNGGENvMAESIvNJAMvMBANYIvNYETvTEUAENvSOTvPAAMvNSHIEEvMAEMvNYI
vKAQvNSHAvVEEvLUvNENwAQvMBAQtB NSHUETvTU MAEMGBIEEvSIEEwET TUvLOM NTEUMvMBA MAELEEvKIEEMvYEURAE
vMBAARAEvKAMvPEESHIvYAFU LEERAEWAvLAM NSHUT NYAMvNTIEE SHEUOQwDU NJAAvGHEUGHEUAEMvPITvTU NSIEE
vSHET NJAQyUAEQTUvMFON TEUAEQwBIT MBAAKETvNYI NTEUMvKEUPUQvGHEUGHENvKEUYEUXvLAANAEvPARUMvVEUM
vNGKINDI MVOPxGEU MBUvWUAETvSAKEUAEvTAAMvMEUQvNGGUOQá LARGEvMFIYAQvSUEvMBEURIwONTIEENvNYAEMAE
vPUNGAAMvMEUT NGGEETvFEUXvMBUOQvFEEvKEUAEMvMA NJEUAENAàUQAvLETvNGGAAMwSENvMAvKIQvNGOMtC NGKUE MAEMBA
wZAvYUMvWANGKUOQvNGGENwDEUAEREEwGKAQvGHARAEvMBEEKEETvGBAYIvNYIR MKPARAQ MEUNwTU MBITvMBEUMvPIRIEEN
vNDOMBUvMBAA CABBAGE-TREEvKEUSHEUAEPvGHAPvKEUKAQvYU MUOMAEvNZEUMvMBUEvNSEUAENvMBITvYEUQvKPARAQwAA
vSEUXvNDIDAvTAASHAEvNJUEQvTITA YUEvSUAETvNGGUAEN NYAMvVEUXvNANSANAQvMA KEUAERIvNTAAwGGUONvLAP
vMBIRIEENwGBASAQvNTEUNGBAvTEUTEUXvNGGUMvFUEvNDEUTwSAxHAQvBUNGvVEUAEPENvMBERAEvRUvNJAEMvLAMvTITUAEP
vNSUOT NGOMwJEEEEvKETvNGGUvMAESIwBUAEMvLUvKUTvNJAMwGOMvWUPvNGGUEETwSOMwTENvKUOP NKAARAEvNSUNwDAM
vMA NSIEEvYAAvNDAPvSHUEQwETFONvMBIwAEMBAwBANYIvKEUSEUXvMBEUXvKEUMvMBAA PICKETvYUWOQvNJEUXvMIEEwUAE
vSHIQvKEN LAWzFATIGUEvNGAQwAQvLIQvPINwENvTETtD MBUOvWAPvNJIvMFONvNJIEEvLIEEvNJEUTwSHEEwGGAAMAEwYAM
vWUAENvNGKUNvSHEEvNGKAPvKEUAETMEUNvTEUTvSHEUAEvNJAPvSUEvKETvYAEMMAEvKUOMvSAPvMFEUTvNDEUXvMALEERIwEUT
vSEUAEQvYENvNJEUAEMvKEUOT MBUAEvNGKEURIvTUvGHAAvNGKYEEvFEUFEUAETvNDEEvMGBOFUMvLEUAEPvNDONvMONIwGBEUN
vPUUTvMGBIEEwFOvLUMvNSIEEPvMBAAvKWAETvNYETvTEUAENvSOTvYUWOQvKEUMvRAEMvTEEEEvNGKEUAEQvMFEUAEvNSIEET
vKEUPvPIPwEUTAEvNYUEvLETvNGGAAMvMFIEEvNGGWAENvYUOMvPAPvYUOPvNDAMwTEUMvSUAEvKUNvNGGEUXxKIEEvTUOTvMEUN
vKUQvNSUMvTEUNvMAENJETvNGGAPvLEUMvNGGUOMwSHUTwJUEQvGHEUAEvKUvREN OLDvTAEwOQvNYIvRIIvLEEEEvMEEEEwvSUU
vMUvSHIIxEUXvKYEEvNUvSHUvNTEEvPEEvNIvSHOQvPUQvMVOPvLOQvREN MUCHvTIvNTUUvMBAA SEVENvSAQvFAAtE NDAP
vTOONvMBEUMvLAPvVOMvLOONvPAAvSOMvRAQvNSHUOPwDUNvPUAEvTAMvNGKAvKPEUXvWUOvSEEvNGGEUAETvPAAMvTOOvKUOP
vLOMvNSHIEEwGOPvMAEMvNGKEUXxOQwSHUEvRIMGBAvNJEUXvPEEMvSAAvNGGURAEvMGBAvGHEUXvNGKEUAEMwJAEMLIvMAP
vLOOTvNGGEEEEwDIQvTAEN NTEUMvSETvPUMvNDAA SOFTNESSwGGUAESHAE NYAMvYIEEvGHEUNvTUAEvYEUAEvPOvTUMAE
vKEUAEvSUAENvTEUAEQvVEUAEvWEUXvLAAMvPUvTAAQvGHAAMAEvNGEUREUTvSHEUAEQvMGBENwBEEvNZAQwKOMvGBETvTUM
vKUETvYAPvNYI CLEAVERvYITvMFEUQvNDIAQvPIEEQvYUEQvLEUAEMvFUEvGBEUXvNGKUPvKETvMAEvNGKAAMIvGHETvFAvNTUM
vPEUTvYEUMvNGGEUAEwYI BETWEENwZUQvPOONvMIEEvFUETvNAEvMUAEvGHEUAEvFU IvMVIvPUAQvNGKUMvKUTvPIETvNTAP
vYEUAETvNGGUPvPA PEOPLEvFU CALLwOMvNJEEvAvTOQvOvIvLAQvPA PLURALvTAAxQvNDAA MY HOUSEvSHIQvYEUXvNGUAE
vYUAENwOQ SWIMMINGzCOVERwUQxNvKEUXvPEUXvNJEE EPOCHvPUEvWUEvFEEvVEEvLUvMIvREUXwAEvNGUAETxAvSHOyQ
vFU REMEDYvNAvPIvLOQvKOvMENwAxQvTEUvKIvMONvTENvFAQvGHOMtF KAvUvKUvEEvREEvTAEvNYIvLAvRIIxEEvMEEEEvTAA
vNDAAwJAEMvMvSUUwHIIwIwEUXvKYEEwETvNUAExwJUAEvYOQvSHUvYAvNSHAvPEUXvNTEEvWUEvPEEvRUvNIvREUXvKEN
vNGKWAENxGAvSHOvPUAEvFOMvWAvLIwOQvKOvMBENvRENvMAwOwBAAvTETvKPAvSAMBAvVUEQ>16A40aMRO LETTER TAlNGIlYO
lMIMlBAlDAlAlPHIlKHAIlHAOlDAIlCHUlKEAAElOLlMAEMlNINlPAlOOmlROlSHIlTHEAlEAlWAlElKOlLANnlHAIlRIlTEK
>16A60eDIGIT ZEROkONEkTWOlHREEkFOURlIVEkSIXlEVENkEIGHTkNINE>16A6EfANDAfOUBLE DANDAaTANGSA LETTER OZ
pCpQpXoAZpCpQpXoVZpCpQpXoEZpCpQpXoIZpCpQpXoUZpCpQpXoAWZqCqQqXoUIZqCqQqXoFINAL NGoLONG UEXoSHORT UEZ
uAWXoUECqZqQqXpIUZrCrQrXoMZpCpQpXoKApHAoGAoNGAoSAoYAoWAoPAoNYAoPHAoBAoMAoNAoHAoLAoHTAoTAoDAoRAoNHA
oSHAoCAoTSAoGHAoHTTAoTHAoXAoFAoDHAoCHAoZA>16AC0hDIGIT ZEROnONEnTWOoHREEnFOURoIVEnSIXoEVENnEIGHTnNINE
>16AD0aBASSA VAH LETTER ENNIrKArSErFArMBErYIErGAHrDHIIrKPAHrJOrHWAHrWArZOrGBUrDOrCErUWUrTOrBArVU
rYEINrPArWADDArArOsOrUrEEsrI>16AF0kCOMBINING HIGH TONEuLOW TONEuMID TONEuLOW-MID TONEuHIGH-LOW TONE
kFULL STOP>16B00aPAHAWH HMONG VOWEL KEEBwVuIBvVuAUBwVuUBvVuEBvVuAIBwVuOOBwVuAWBwVuUABwVuOBvVuIABwV
uABvVuWBvVuAABwVnCONSONANT VAUxNTSAUxLAUxHAUxNLAUxRAUxNKAUxQHAUxYAUxHLAUxMAUxCHAUxNCHAUxHNAUxPLHAU
xNTHAUyAUxAUxXAUxCAUnMARK CIM TUBwSOwKESxHAVwSUAMwHOMwTAUMnSIGN VOS THOMxSHAB CEEBsCIM CHEEM
sVOS THIABwFEEMsXYEEM NTXIVyRHOyTOVyFAIBsVOS SEEVsMEEJ SUABsVOS NRUAsIB YAMsXAUSsCIM TSOV ROG>16B50
nDIGIT ZEROtONEtTWOuHREEtFOURuIVEtSIXuEVENtEIGHTtNINE>16B5BnNUMBER TENSuHUNDREDSuTEN THOUSANDS
uMILLIONSuHUNDRED MILLIONSuTEN BILLIONSvRILLIONS>16B63nSIGN VOS LUBsXYOOsHLIsTHIRD-STAGE HLI
sZWJ THAJsHNUBsNQIGsXIABsNTUJsAVsTXHEEJ CEEVsMEEJ TSEEBsTAUsLOSsMUSsCIM HAIS LUS NTOG NTOG
wCUAM TSHOOJwTXWVà CHWVwPUB DAWBwNRES TOS>16B7DnCLAN SIGN TSHEEJxYEEGxLISyAUJxXYOOJxKOOxHAWJxMUAS
xTHOJySABxPHABxKHABxHAMxVAJxFAJxYAJxTSWBxKWMxVWJ>16E40aMEDEFAIDRIN CAPITAL LETTER MáSáVáWáATIUáZáKP
áPáTáGáFáIáKáAáJáEáBáCáUáYUáLáQáHPáNYáXáDáOEáNáRáOáAIáYmSMALL LETTER MzSzVzWzATIUzZzKPzPzTzGzFzIzKzA
zJzEzBzCzUzYUzLzQzHPzNYzXzDzOEzNzRzOzAIzYmDIGIT ZEROsONEsTWOtHREEsFOURtIVEsSIXtEVENsEIGHTsNINE
mNUMBER TENtELEVENtTWELVEuHIRTEENtFOURTEENuIFTEENtSIXTEENuEVENTEENtEIGHTEENtNINETEEN
mDIGIT ONE ALTERNATE FORMsTWO ALTERNATE FORMtHREE ALTERNATE FORMmCOMMAmFULL STOPmSYMBOL AIVA
mEXCLAMATION OH>16F00bIAO LETTER PAmBAmYI PAmPLAmMAnHAmARCHAIC MAmFAmVAnFAmTAmDAmYI TTAqAmTTAmDDAmNA
nHAmYI NNAmARCHAIC NAmNNAoHAmLAnYAnHAoYAmTLHAmDLHAmTLHYAmDLHYAmKAmGAmYI KAmQAnGAmNGAoHAmARCHAIC NGA
mHAmXAmGHAoHAmTSSAmDZZAmNYAoHAmTSHAmDZHAmYI TSHApDZHAmREFORMED TSHAmSHAnSAmZHAnSHAmTSAmDZAmYI TSAmSA
mZAnSAnZAoSAmARCHAIC ZZAmZZYAoSYAmWAmAHmHHAmBRImSYImDZYImTEnSEmRTE>16F4FfSIGN CONSONANT MODIFIER BAR
fLETTER NASALIZATIONfSIGN ASPIRATIONkREFORMED VOICINGtASPIRATIONfVOWEL SIGN ArArHHrNsGqOrOqWOrqErNsG
qOEYqIrAsNtGrOrErIrUrNGqUrAsNtGrUrEIrNGqYrIqAEsEqERRqROUNDED ERRqERqROUNDED ERqAIqEIqAUqOUqNrGqUOG
qYUIqOGrERqVWqIGqEAqIONGqUI>16F8FfTONE RIGHTkTOP RIGHTkABOVEkBELOWfLETTER TONE-2r3r4r5r6r7r8
mREFORMED TONE-1à2à4à5à6à8>16FE0aTANGUT ITERATION MARKaNUSHU ITERATION MARKaOLD CHINESE HOOK MARK
mITERATION MARKaKHITAN SMALL SCRIPT FILLER>16FF0aVIETNAMESE ALTERNATE READING MARK CAèNHAY>18800
aTANGUT COMPONENT-001t2t3t4t5t6t7t8t9s10t1t2t3t4t5t6t7t8t9s20t1t2t3t4t5t6t7t8t9s30t1t2t3t4t5t6t7t8t9
s40t1t2t3t4t5t6t7t8t9s50t1t2t3t4t5t6t7t8t9s60t1t2t3t4t5t6t7t8t9s70t1t2t3t4t5t6t7t8t9s80t1t2t3t4t5t6
t7t8t9s90t1t2t3t4t5t6t7t8t9r100t1t2t3t4t5t6t7t8t9s10t1t2t3t4t5t6t7t8t9s20t1t2t3t4t5t6t7t8t9s30t1t2t3
t4t5t6t7t8t9s40t1t2t3t4t5t6t7t8t9s50t1t2t3t4t5t6t7t8t9s60t1t2t3t4t5t6t7t8t9s70t1t2t3t4t5t6t7t8t9s80
t1t2t3t4t5t6t7t8t9s90t1t2t3t4t5t6t7t8t9r200t1t2t3t4t5t6t7t8t9s10t1t2t3t4t5t6t7t8t9s20t1t2t3t4t5t6t7
t8t9s30t1t2t3t4t5t6t7t8t9s40t1t2t3t4t5t6t7t8t9s50t1t2t3t4t5t6t7t8t9s60t1t2t3t4t5t6t7t8t9s70t1t2t3t4
t5t6t7t8t9s80t1t2t3t4t5t6t7t8t9s90t1t2t3t4t5t6t7t8t9r300t1t2t3t4t5t6t7t8t9s10t1t2t3t4t5t6t7t8t9s20t1
t2t3t4t5t6t7t8t9s30t1t2t3t4t5t6t7t8t9s40t1t2t3t4t5t6t7t8t9s50t1t2t3t4t5t6t7t8t9s60t1t2t3t4t5t6t7t8t9
s70t1t2t3t4t5t6t7t8t9s80t1t2t3t4t5t6t7t8t9s90t1t2t3t4t5t6t7t8t9r400t1t2t3t4t5t6t7t8t9s10t1t2t3t4t5t6
t7t8t9s20t1t2t3t4t5t6t7t8t9s30t1t2t3t4t5t6t7t8t9s40t1t2t3t4t5t6t7t8t9s50t1t2t3t4t5t6t7t8t9s60t1t2t3
t4t5t6t7t8t9s70t1t2t3t4t5t6t7t8t9s80t1t2t3t4t5t6t7t8t9s90t1t2t3t4t5t6t7t8t9r500t1t2t3t4t5t6t7t8t9s10
t1t2t3t4t5t6t7t8t9s20t1t2t3t4t5t6t7t8t9s30t1t2t3t4t5t6t7t8t9s40t1t2t3t4t5t6t7t8t9s50t1t2t3t4t5t6t7t8
t9s60t1t2t3t4t5t6t7t8t9s70t1t2t3t4t5t6t7t8t9s80t1t2t3t4t5t6t7t8t9s90t1t2t3t4t5t6t7t8t9r600t1t2t3t4t5
t6t7t8t9s10t1t2t3t4t5t6t7t8t9s20t1t2t3t4t5t6t7t8t9s30t1t2t3t4t5t6t7t8t9s40t1t2t3t4t5t6t7t8t9s50t1t2
t3t4t5t6t7t8t9s60t1t2t3t4t5t6t7t8t9s70t1t2t3t4t5t6t7t8t9s80t1t2t3t4t5t6t7t8t9s90t1t2t3t4t5t6t7t8t9
r700t1t2t3t4t5t6t7t8t9s10t1t2t3t4t5t6t7t8t9s20t1t2t3t4t5t6t7t8t9s30t1t2t3t4t5t6t7t8t9s40t1t2t3t4t5t6
t7t8t9s50t1t2t3t4t5t6t7t8t9s60t1t2t3t4t5t6t7t8>1AFF0aKATAKANA LETTER MINNAN TONE-2â3â4â5>1AFF5â7â8
xNASALIZED TONE-1ì2ì3ì4ì5>1AFFDì7ì8>1B000qARCHAIC EaHIRAGANA LETTER ARCHAIC YEbENTAIGANA LETTER A-1
u2u3uWOsI-1u2u3u4sU-1u2u3u4u5sE-2u3u4u5u6sO-1u2u3sKA-1v2v3v4v5v6v7v8v9v10w1vKEtI-1v2v3v4v5v6v7v8tU-1
v2v3v4v5v6v7tE-1v2v3v4v5v6tO-1v2v3vKIsSA-1v2v3v4v5v6v7v8tI-1v2v3v4v5v6tU-1v2v3v4v5v6v7v8tE-1v2v3v4v5
tO-1v2v3v4v5v6v7sTA-1v2v3v4tI-1v2v3v4v5v6v7tU-1v2v3v4vTOtE-1v2v3v4v5v6v7v8v9tO-1v2v3v4v5v6vRAsNA-1v2
v3v4v5v6v7v8v9tI-1v2v3v4v5v6v7vTEtU-1v2v3tE-1v2v3v4v5v6vKOtO-1v2v3v4v5sHA-1v2v3v4v5v6v7v8v9v10w1tI-1
v2v3v4v5v6v7tU-1v2v3tE-1v2v3v4v5v6v7tO-1v2v3v4v5v6v7v8sMA-1v2v3v4v5v6v7tI-1v2v3v4v5v6v7tU-1v2v3v4
tE-1v2vMAtO-1v2v3v4v5v6sYA-1v2v3v4v5vYOtU-1v2v3v4tO-1v2v3v4v5v6sRA-1v2v3v4tI-1v2v3v4v5v6v7tU-1v2v3v4
v5v6tE-1v2v3v4tO-1v2v3v4v5v6sWA-1v2v3v4v5tI-1v2v3v4v5tE-1v2v3v4tO-1v2v3v4v5v6v7sN-MU-MO-1à2
bIRAGANA LETTER ARCHAIC WUaKATAKANA LETTER ARCHAIC YIzEyWU>1B150aHIRAGANA LETTER SMALL WIxExO>1B164
aKATAKANA LETTER SMALL WIxExOwN>1BC00aDUPLOYAN LETTER HqXqPqTqFqKqLqBqDqVqGqRqP NqD SqF NqK MqR SqTH
qSLOAN DHqDHqKKqSLOAN JqHLqLHqRHqMqNqJqSqM NqN MqJ MqS JqM WITH DOTqN WITH DOTqJ WITH DOT
àS INSIDE AND ABOVEqS WITH DOTà BELOWqM SqN SqJ SqS SqM N SqN M SqJ M SqS J SqJ S WITH DOTsNt SqS T
t RsPt RqT SsR SqWrHr RqS NsMqK R SqG R SqS Kt RqAqSLOAN OWqOArqAOUqIqEqIEqSHORT IqUIqEEqSLOAN EH
qROMANIAN IqSLOAN EEqLONG IqYEqUqEUqXWqU NqLONG UqROMANIAN UqUHqSLOAN UqOOHrWrUqWArOrIrEIrOWqNASAL U
wOwIwAqPERNIN ANyMqSLOAN ENwANwONqVOCALIC M>1BC70jAFFIX LEFT HORIZONTAL SECANTpMID HORIZONTAL SECANT
pRIGHT HORIZONTAL SECANTpLOW VERTICAL SECANTpMID VERTICAL SECANTpHIGH VERTICAL SECANT
pATTACHED SECANTyLEFT-TO-RIGHT SECANTyTANGENTàILyE HOOKyI HOOKyTANGENT HOOK>1BC80pHIGH ACUTE
uTIGHT ACUTEuGRAVEuLONG GRAVEuDOTuCIRCLEuLINEuWAVEuVERTICAL>1BC90pLOW ACUTEtTIGHT ACUTEtGRAVE
tLONG GRAVEtDOTtCIRCLEtLINEtWAVEtVERTICALtARROW>1BC9CjSIGN O WITH CROSSjTHICK LETTER SELECTOR
jDOUBLE MARKjPUNCTUATION CHINOOK FULL STOPaSHORTHAND FORMAT LETTER OVERLAPrCONTINUING OVERLAP
rDOWN STEPrUP STEP>1CF00aZNAMENNY COMBINING MARK GORAZDO NIZKO S KRYZHEM ON LEFT
yNIZKO S KRYZHEM ON LEFTyTSATA ON LEFTyGORAZDO NIZKO ON LEFTyNIZKO ON LEFTySREDNE ON LEFT
yMALO POVYSHE ON LEFTyPOVYSHE ON LEFTyVYSOKO ON LEFTyMALO POVYSHE S KHOKHLOM ON LEFT
yPOVYSHE S KHOKHLOM ON LEFTyVYSOKO S KHOKHLOM ON LEFTyGORAZDO NIZKO S KRYZHEM ON RIGHT
yNIZKO S KRYZHEM ON RIGHTyTSATA ON RIGHTyGORAZDO NIZKO ON RIGHTyNIZKO ON RIGHTySREDNE ON RIGHT
yMALO POVYSHE ON RIGHTyPOVYSHE ON RIGHTyVYSOKO ON RIGHTyMALO POVYSHE S KHOKHLOM ON RIGHT
yPOVYSHE S KHOKHLOM ON RIGHTyVYSOKO S KHOKHLOM ON RIGHTyTSATA S KRYZHEMyMALO POVYSHE S KRYZHEM
ySTRANNO MALO POVYSHEyPOVYSHE S KRYZHEMçTRANNOyVYSOKO S KRYZHEMyMALO POVYSHE STRANNOyGORAZDO VYSOKO
yZELOyONyRAVNOyTIKHAYAyBORZAYAyUDARKAyPODVERTKAyLOMKAyKUPNAYAzACHKAyZEVOKySKOBAyRAZSEKA
yKRYZH ON LEFT>1CF30tTONAL RANGE MARK MRACHNOêSVETLOêTRESVETLOtMARK ZADERZHKAyDEMESTVENNY ZADERZHKA
yOTSECHKAyPODCHASHIEè WITH VERTICAL STROKEyCHASHKAå POLNAYAyOBLACHKOySOROCHYA NOZHKAyTOCHKA
yDVOETOCHIEtATTACHING VERTICAL OMETtMARK CURVED OMETyKRYZHtLOWER TONAL RANGE INDICATOR
jPRIZNAK MODIFIER LEVEL-2æ3àDIRECTION FLIPàKRYZHàROG>1CF50jNEUME KRYUKu TIKHYpPARAKLITpDVA V CHELNU
pKLYUCHpZANOZHEKpSTOPITSAx S OCHKOMpPEREVODKAy NEPOSTOYANNAYApSTOPITSA WITH SOROCHYA NOZHKA
pCHELYUSTKApPALKApZAPYATAYApGOLUBCHIK BORZYzTIKHYzMRACHNYzSVETLYzTRESVETLYpVRAKHIYA PROSTAYA
yMRACHNAYAySVETLAYAyTRESVETLAYAyKLYUCHEVAYA PROSTAYAêMRACHNAYAêSVETLAYAêTRESVETLAYApDOUBLE ZAPYATAYA
pREVERSED CHELYUSTKApDERBITSApKHAMILOpCHASHKApPODCHASHIEpSKAMEYTSA MRACHNAYAzSVETLAYAzTRESVETLAYA
àIKHAYApDEMESTVENNY KLYUCHpSKAMEYTSA KLYUCHEVAYA SVETLAYAæNEPOSTOYANNAYAæVAYA TIKHAYA
zDVOECHELNAYA PROSTAYAìSVETLAYAìNEPOSTOYANNAYAìKLYUCHEVAYAqLOZHITIEy S ZAPYATOYzZAKRYTOEzS KRYZHEM
pKRYZHpROGpFITApKOBYLApZMEYTSApSTATYAv S ZAPYATOYyKRYZHEMyZAPYATOY I KRYZHEMyKRYZHEM I ZAPYATOY
wZAKRYTAYAå S ZAPYATOYwS ROGOMyDVUMYA ZAPYATYMIyZAPYATOY I PODCHASHIEMpPOLKULIZMY
pSTATYA NEPOSTOYANNAYArRELA PROSTAYAwMRACHNOTIKHAYAwKRYZHEVAYAwPOLUPOVODNAYAyVODNAYAwNEPOSTOYANNAYA
wKLYUCHEPOVODNAYAãNEPOSTOYANNAYAwTIKHAYA PUTNAYAwDVOECHELNAYAåOKRYZHEVAYAæPOVODNAYAåAYA KLYUCHEVAYA
åOPOVODNAYA KLYUCHEVAYAwGROMNAYA WITH SINGLE ZAPYATAYAàOPOVODNAYA WITH SINGLE ZAPYATAYAàNAYA
àOPOVODNAYAê WITH DOUBLE ZAPYATAYAáKRYZHEVAYAë POVODNAYApMECHIKv POVODNYwKLYUCHEVOYãPOVODNY
ãNEPOSTOYANNYpSTRELA TRYASOGLASNAYAâPOVODNAYAâSTRELNAYApOSOKAu SVETLAYAvTRESVETLAYA
vKRYUKOVAYA SVETLAYAwLYUCHEVAYA SVETLAYAçNEPOSTOYANNAYApSTRELA KRYUKOVAYAæ POVODNAYA
çGROMNAYA WITH SINGLE ZAPYATAYAëOPOVODNAYA WITH SINGLE ZAPYATAYAëNAYAëOPOVODNAYA
õ WITH DOUBLE ZAPYATAYAìKRYZHEVAYAö POVODNAYAçTRYASKApKUFISMApOBLAKOpDUDApNEMKApPAUK
"

end Scalpel.Text.CharName

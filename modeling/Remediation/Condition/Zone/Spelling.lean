/-!
# Spelled zones

The zones by name, with all changes of their clocks.  Offsets are seconds ahead of universal time, the
first one before all changes.  A change is spelled as the time since the one before it, or since the
start of 1970, and a letter: its unit is an hour from `a` to `h`, a minute from `i` to `p` and a second
from `q` to `x`, and its place among these eight letters is that of the new offset.

Behind the last change holds a rule.  It is an offset, or the offsets of standard time and summer time
with when summer time starts and when it ends: month, week of the month, day of the week, and the
seconds from the start of that day by the clock before.
-/

set_option autoImplicit false

namespace Remediation

namespace Condition

/-- A zone as it is spelled. -/
structure ZoneSpelling where
  /-- The names of the zone. -/
  names : List String
  /-- The offsets that its clocks have had. -/
  offsets : String
  /-- The changes of its clocks. -/
  changes : List String
  /-- What holds behind the last change. -/
  rule : String
  deriving Repr, Inhabited

/-- All zones. -/
def zoneSpellings : List ZoneSpelling := [
  ⟨["Africa/Abidjan"], "-968 0",
    ["-1830383032r"],
    "0"⟩,
  ⟨["Africa/Accra"], "-52 0 1200 1800",
    ["-1709337548r 128131148s 54820j 351380k 175660j 349940k 175660j 349940k 175660j 349940k",
     "175660j 351380k 175660j 349940k 175660j 349940k 175660j 349940k 175660j 351380k 175660j",
     "349940k 175660j 349940k 175660j 349940k 175660j 351380k 175660j 349940k 175660j 349940k",
     "175660j 349940k 175660j 351380k 175660j 349940k 175660j 349940k 175660j 349940k 175660j",
     "174260k 352780j 172820k 352780j 54620l 2056290j 2446710l 175650j 349950l 175650j 351390l",
     "175650j 349950l 175650j 349950l 175650j 349950l 175650j"],
    "0"⟩,
  ⟨["Africa/Addis_Ababa"], "9288 9320 10800",
    ["-3155682888r 2093471968s"],
    "10800"⟩,
  ⟨["Africa/Algiers"], "732 561 0 3600 7200",
    ["-2486592732r 630633771s 166144161t 2616c 4176d 4728c 3672d 5064c 3504d 5232c 3168d 6048c",
     "3408d 2376c 159744d 1633c 2354d 35975e 4511d 4225e 4006d 9264c 81625d 63167c 70416d 3696c",
     "49153d 7728e 4369d 9574c 4369d 4537c 4367d"],
    "3600"⟩,
  ⟨["Africa/Asmara Africa/Asmera"], "9332 9320 10800",
    ["-2524530932r 1462320012s"],
    "10800"⟩,
  ⟨["Africa/Bamako Africa/Timbuktu"], "-1920 0 -3600",
    ["-30506368j 11652448k 230665b"],
    "0"⟩,
  ⟨["Africa/Bangui"], "4460 3600",
    ["-1830388460r"],
    "3600"⟩,
  ⟨["Africa/Banjul"], "-3996 -3600 0",
    ["-1159829604r 278898804s"],
    "0"⟩,
  ⟨["Africa/Bissau"], "-3740 -3600 0",
    ["-508439b 552264c"],
    "0"⟩,
  ⟨["Africa/Blantyre"], "8400 8470 8460 7200",
    ["-30738380j 92620730s 347241610t"],
    "7200"⟩,
  ⟨["Africa/Brazzaville"], "3668 3600",
    ["-1830387668r"],
    "3600"⟩,
  ⟨["Africa/Bujumbura"], "7048 7200",
    ["-2524528648r"],
    "7200"⟩,
  ⟨["Africa/Cairo Egypt"], "7509 7200 10800",
    ["-2185409109r 1255565109s 1871b 4705c 3695b 4729c 5015b 3745c 5135b 3649c 5135b 3985c 4775b",
     "100993c 3455b 5089c 3671b 5090c 3649b 5135c 3649b 5111c 3649b 5111c 3649b 5111c 3649b 5135c",
     "3649b 5111c 3649b 5111c 3673b 5087c 3673b 5111c 3673b 5087c 3673b 5087c 3673b 5087c 3673b",
     "5111c 3673b 5087c 3673b 5087c 3673b 5087c 3673b 5111c 3673b 5087c 3673b 5087c 3673b 5087c",
     "3673b 5111c 3673b 5087c 3673b 7127c 1633b 6815c 1945b 5111c 3673b 5087c 3673b 5087c 3673b",
     "5087c 3673b 5111c 3673b 5207c 3553b 5087c 3673b 5087c 3673b 5111c 3673b 5087c 3673b 5087c",
     "3673b 5014c 3695b 5041c 3695b 5041c 3695b 5041c 3695b 5209c 3695b 5041c 3695b 5041c 3695b",
     "5041c 3695b 5041c 3695b 5209c 3695b 5041c 3695b 5041c 3527b 5209c 3191b 5545c 3023b 5713c",
     "2855b 6049c 2471b 721c 503b 31753c 1007b 841c 1343b 75265c"],
    "7200 10800 4 5 5 0 10 5 4 86400"⟩,
  ⟨["Africa/Casablanca"], "-1820 0 3600",
    ["-1773012580r 816650980s 1631b 2353c 50231b 39985c 3359b 145477c 2867b 58993c 1655b 14593c",
     "2207b 6553c 3599b 5905c 1535b 49225c 15743b 196489c 2207b 6553c 1943b 6097c 2351b 5713c",
     "2855b 6555c 1968b 744c 984b 5040c 1680b 816c 1872b 3696c 2160b 840c 2040b 3696c 1848b 840c",
     "2352b 3696c 1680b 840c 2688b 3528c 1344b 1008c 2856b 3528c 1176b 840c 7728b 840c 7560b 1008c",
     "7560b 840c 7560b 1008c 7560b 840c 7728b 840c 7560b 1008c 7560b 840c 7728b 840c 7560b 1008c",
     "7560b 840c 7560b 1008c 7560b 840c 7728b 840c 7560b 1008c 7560b 840c 7560b 1008c 7560b 1008c",
     "7560b 840c 7560b 1008c 7560b 840c 7728b 840c 7560b 1008c 7560b 840c 7560b 1008c 7560b 1008c",
     "7560b 840c 7560b 1008c 7560b 840c 7728b 840c 7560b 1008c 7560b 840c 7560b 1008c 7560b 1008c",
     "7560b 840c 7560b 1008c 7560b 840c 7728b 840c 7560b 1008c 7560b 840c 7560b 1008c 7560b 1008c",
     "7560b 840c 7560b 1008c 7560b 840c 7728b 840c 7560b 1008c 7560b 840c 7560b 1008c 7560b 1008c",
     "7560b 840c 7560b 1008c 7560b 840c 7728b 840c 7560b 1008c 7560b 840c 7560b 1008c 7560b 1008c",
     "7560b 840c 7560b 1008c 7560b 840c 7728b 840c 7560b 1008c 7560b 840c 7560b 1008c 7560b 840c",
     "7728b 840c 7560b 1008c 7560b 840c 7728b 840c 7560b 1008c"],
    "3600"⟩,
  ⟨["Africa/Ceuta"], "-1276 0 3600 7200",
    ["-604848b 152039c 3695b 48433c 4105b 13439c 4033b 4535c 4201b 4704c 4200b 338844c 2867b",
     "58993c 1655b 14593c 2207b 6553c 3599b 5905c 1535b 49225c 17857d 4368c 4368d 4368c 4368d",
     "4368c 4368d 4368c 4368d 4536c 4368d 4368c 4368d 4368c 4368d 4368c 4368d 4368c 4368d 4368c"],
    "3600 7200 3 5 0 7200 10 5 0 10800"⟩,
  ⟨["Africa/Conakry"], "-3292 0 -3600",
    ["-1830380708r 699145508s 226561b"],
    "0"⟩,
  ⟨["Africa/Dakar"], "-4184 -3600 0",
    ["-1830379816r 928281016s"],
    "0"⟩,
  ⟨["Africa/Dar_es_Salaam"], "9428 10800 9900",
    ["-1230777428r 536456228s 6838575j"],
    "10800"⟩,
  ⟨["Africa/Djibouti"], "10356 10800",
    ["-1846291956r"],
    "10800"⟩,
  ⟨["Africa/Douala"], "2328 3600",
    ["-1830386328r"],
    "3600"⟩,
  ⟨["Africa/El_Aaiun"], "-3168 -3600 0 3600",
    ["-1136070432r 1334362032s 407d 2207c 6553d 3599c 5905d 1535c 261457d 2207c 6553d 1943c 6097d",
     "2351c 5713d 2855c 6555d 1968c 744d 984c 5040d 1680c 816d 1872c 3696d 2160c 840d 2040c 3696d",
     "1848c 840d 2352c 3696d 1680c 840d 2688c 3528d 1344c 1008d 2856c 3528d 1176c 840d 7728c 840d",
     "7560c 1008d 7560c 840d 7560c 1008d 7560c 840d 7728c 840d 7560c 1008d 7560c 840d 7728c 840d",
     "7560c 1008d 7560c 840d 7560c 1008d 7560c 840d 7728c 840d 7560c 1008d 7560c 840d 7560c 1008d",
     "7560c 1008d 7560c 840d 7560c 1008d 7560c 840d 7728c 840d 7560c 1008d 7560c 840d 7560c 1008d",
     "7560c 1008d 7560c 840d 7560c 1008d 7560c 840d 7728c 840d 7560c 1008d 7560c 840d 7560c 1008d",
     "7560c 1008d 7560c 840d 7560c 1008d 7560c 840d 7728c 840d 7560c 1008d 7560c 840d 7560c 1008d",
     "7560c 1008d 7560c 840d 7560c 1008d 7560c 840d 7728c 840d 7560c 1008d 7560c 840d 7560c 1008d",
     "7560c 1008d 7560c 840d 7560c 1008d 7560c 840d 7728c 840d 7560c 1008d 7560c 840d 7560c 1008d",
     "7560c 1008d 7560c 840d 7560c 1008d 7560c 840d 7728c 840d 7560c 1008d 7560c 840d 7560c 1008d",
     "7560c 840d 7728c 840d 7560c 1008d 7560c 840d 7728c 840d 7560c 1008d"],
    "3600"⟩,
  ⟨["Africa/Freetown"], "-3180 -3600 -2400 0",
    ["-29718667j 10213927k 174220j 220340k 305260j 220340k 305260j 220340k 306700j 220340k 305260j",
     "220340k 305260j 220340k 393100j 132500k 5740j 1186580l"],
    "0"⟩,
  ⟨["Africa/Gaborone"], "6220 5400 7200 10800",
    ["-2682294220r 573005620s 21329370l 4367c"],
    "7200"⟩,
  ⟨["Africa/Harare"], "7452 7200",
    ["-2109290652r"],
    "7200"⟩,
  ⟨["Africa/Johannesburg"], "6720 5400 7200 10800",
    ["-40969552j 5814742k 20805210l 4367c 4369d 4367c"],
    "7200"⟩,
  ⟨["Africa/Juba"], "7588 7200 10800",
    ["-1230775588r 1241136388s 4007b 4729c 4031b 4753c 4031b 4705c 4055b 4681c 4079b 4657c 4103b",
     "4633c 4151b 4585c 4175b 4729c 4031b 4705c 4055b 4681c 4103b 4633c 4127b 4609c 4151b 4585c",
     "4175b 4729c 4055b 4681c 4079b 124933c 184499b"],
    "7200"⟩,
  ⟨["Africa/Kampala"], "7780 10800 9000 9900",
    ["-1309745380r 47430580s 9466590l 4734705j"],
    "10800"⟩,
  ⟨["Africa/Khartoum"], "7808 7200 10800",
    ["-1230775808r 1241136608s 4007b 4729c 4031b 4753c 4031b 4705c 4055b 4681c 4079b 4657c 4103b",
     "4633c 4151b 4585c 4175b 4729c 4031b 4705c 4055b 4681c 4103b 4633c 4127b 4609c 4151b 4585c",
     "4175b 4729c 4055b 4681c 4079b 124933c 155987b"],
    "7200"⟩,
  ⟨["Africa/Kigali"], "7216 7200",
    ["-1091498416r"],
    "7200"⟩,
  ⟨["Africa/Kinshasa"], "3672 3600",
    ["-2276643672r"],
    "3600"⟩,
  ⟨["Africa/Lagos"], "815 0 1800 3600",
    ["-2035584815r 94695215q 173663185s 178760615t"],
    "3600"⟩,
  ⟨["Africa/Libreville"], "2268 3600",
    ["-1830386268r"],
    "3600"⟩,
  ⟨["Africa/Lome"], "292 0",
    ["-2429827492r"],
    "0"⟩,
  ⟨["Africa/Luanda"], "3176 3124 3600",
    ["-2461452776r 631065176s"],
    "3600"⟩,
  ⟨["Africa/Lubumbashi"], "6592 3600 7200",
    ["-2276646592r 708655792s"],
    "7200"⟩,
  ⟨["Africa/Lusaka"], "6788 7200",
    ["-2109289988r"],
    "7200"⟩,
  ⟨["Africa/Malabo"], "2108 0 3600",
    ["-1830386108r 1639528508s"],
    "3600"⟩,
  ⟨["Africa/Maputo"], "7818 7200",
    ["-1924999818r"],
    "7200"⟩,
  ⟨["Africa/Maseru"], "6600 7200 10800",
    ["-35154830j 21329390k 4367b"],
    "7200"⟩,
  ⟨["Africa/Mbabane"], "7464 7200",
    ["-2109290664r"],
    "7200"⟩,
  ⟨["Africa/Mogadishu"], "10888 10800 9000",
    ["-2403572488r 1172793688s 13675710j"],
    "10800"⟩,
  ⟨["Africa/Monrovia"], "-2588 -2670 0",
    ["-1604359012r 1667952082s"],
    "0"⟩,
  ⟨["Africa/Nairobi"], "8836 9000 10800 9900",
    ["-1946168836r 636422236s 796290j 3676350l 2934705k"],
    "10800"⟩,
  ⟨["Africa/Ndjamena"], "3612 3600 7200",
    ["-1830387612r 2139091212s 3503b"],
    "3600"⟩,
  ⟨["Africa/Niamey"], "508 -3600 0 3600",
    ["-1830384508r 699152908s 226559d"],
    "3600"⟩,
  ⟨["Africa/Nouakchott"], "-3828 0 -3600",
    ["-1830380172r 699144972s 234529b"],
    "0"⟩,
  ⟨["Africa/Ouagadougou"], "-364 0",
    ["-1830383636r"],
    "0"⟩,
  ⟨["Africa/Porto-Novo"], "628 0 3600",
    ["-1830384628r 699149428s"],
    "3600"⟩,
  ⟨["Africa/Sao_Tome"], "1616 -2205 0 3600",
    ["-2713912016r 883528016s 929209d 8760c"],
    "0"⟩,
  ⟨["Africa/Tripoli Libya"], "3164 3600 7200",
    ["-1577926364r 1003024364s 1893b 15531c 2013b 15289c 2231b 26305c 201623b 2161c 4391b 4369c",
     "4391b 4393c 4391b 4489c 4271b 4441c 4367b 4321c 4391b 4393c 4391b 4369c 4391b 5161c 56183b",
     "4465c 136777b 3336c"],
    "7200"⟩,
  ⟨["Africa/Tunis"], "2444 561 3600 7200",
    ["-2797202444r 941243483s 886716561t 5208c 2376d 14112c 3697d 5714c 3528d 455c 193d 3887c",
     "4369d 4509c 4227d 4005c 277177d 3528c 5256d 3672c 84744d 2784c 4368d 4368c 5256d 3648c",
     "127848d 3649c 4249d 5208c 3528d 5208c 3696d 5040c"],
    "3600"⟩,
  ⟨["Africa/Windhoek"], "4104 5400 7200 10800 3600",
    ["-2458170504r 348881904s 20805210l 4367c 447071e 4011c 5039e 3697c 5207e 3529c 5207e 3697c",
     "5039e 3697c 5039e 3697c 5039e 3697c 5039e 3697c 5207e 3529c 5207e 3697c 5039e 3697c 5039e",
     "3697c 5039e 3697c 5039e 3697c 5207e 3697c 5039e 3697c 5039e 3697c 5039e 3697c 5039e 3697c",
     "5207e 3529c 5207e 3697c 5039e 3697c 5039e 3697c 5039e 3697c"],
    "7200"⟩,
  ⟨["America/Adak America/Atka US/Aleutian"], "44002 -42398 -39600 -36000 -32400",
    ["-3225223727r 1036278925s 1308748402t 31895c 206641d 4367c 4369d 4367c 4369d 4535c 4369d",
     "4367c 4369d 4367c 1681d 7055c 2857d 5879c 4369d 4535c 4201d 4535c 4369d 4367c 4369d 4367c",
     "4369d 4367c 4369d 4367c 4369d 4535c 4201d 8903e 4367d 4369e 4367d 4369e 4367d 3865e 4871d",
     "3865e 5039d 3697e 5039d 3697e 5039d 3865e 4871d 3865e 4871d 3865e 5039d 3697e 5039d 3697e",
     "5039d 3865e 4871d 3865e 4871d 3865e 4871d 3865e 5039d 3697e 5039d 3697e 5039d 3865e 4871d",
     "3865e 4871d 3865e 5039d 3697e 5039d 3697e 5039d"],
    "-36000 -32400 3 2 0 7200 11 1 0 7200"⟩,
  ⟨["America/Anchorage US/Alaska"], "50424 -35976 -36000 -32400 -28800",
    ["-3225223727r 1036272503s 1308751224t 31895c 206641d 4367c 4369d 4367c 4369d 4535c 4369d",
     "4367c 4369d 4367c 1681d 7055c 2857d 5879c 4369d 4535c 4201d 4535c 4369d 4367c 4369d 4367c",
     "4369d 4367c 4369d 4367c 4369d 4535c 4201d 8903e 4367d 4369e 4367d 4369e 4367d 3865e 4871d",
     "3865e 5039d 3697e 5039d 3697e 5039d 3865e 4871d 3865e 4871d 3865e 5039d 3697e 5039d 3697e",
     "5039d 3865e 4871d 3865e 4871d 3865e 4871d 3865e 5039d 3697e 5039d 3697e 5039d 3865e 4871d",
     "3865e 4871d 3865e 5039d 3697e 5039d 3697e 5039d"],
    "-32400 -28800 3 2 0 7200 11 1 0 7200"⟩,
  ⟨["America/Anguilla"], "-15136 -14400",
    ["-1825098464r"],
    "-14400"⟩,
  ⟨["America/Antigua"], "-14832 -18000 -14400",
    ["-1825098768r 1225500768s"],
    "-14400"⟩,
  ⟨["America/Araguaina"], "-11568 -10800 -7200",
    ["-1767214032r 560256432s 4332b 4441c 4319b 146113c 3264b 5496c 2903b 5857c 2927b 5857c 2159b",
     "94441c 1991b 8065c 1415b 5881c 2159b 5881c 2879b 5881c 2903b 154921c 3191b 5377c 2687b 6073c",
     "2519b 6049c 2519b 6217c 2855b 49729c 2855b 5713c 3191b 5569c 3503b 5377c 3191b 5377c 3527b",
     "5377c 3191b 5713c 3023b 6217c 2519b 84841c 2855b"],
    "-10800"⟩,
  ⟨["America/Argentina/Buenos_Aires America/Buenos_Aires"], "-14028 -15408 -14400 -10800 -7200",
    ["-2372097972r 13410743k 334021392t 2903c 4729d 3311c 5881d 2879c 5881d 2879c 5881d 2879c",
     "5881d 2903c 5881d 2879c 5881d 2879c 5881d 2879c 5881d 2903c 2929d 8375c 2929d 15719c 1801d",
     "20831c 5137d 149015c 1801d 1847c 5473d 3287c 5473d 3287c 5473d 4055c 4369d 4535c 4369d 4367c",
     "4369d 37703e 2351d 127873e 2255d 5377e 3359d 5545e 3191d 5545e 3191d 5545e 3359d 129865e",
     "1847d 5209e 3527d"],
    "-10800"⟩,
  ⟨["America/Argentina/Catamarca America/Argentina/ComodRivadavia",
    "America/Catamarca"], "-15788 -15408 -14400 -10800 -7200",
    ["-2372096212r 804642820s 334021392t 2903c 4729d 3311c 5881d 2879c 5881d 2879c 5881d 2879c",
     "5881d 2903c 5881d 2879c 5881d 2879c 5881d 2879c 5881d 2903c 2929d 8375c 2929d 15719c 1801d",
     "20831c 5137d 149015c 1801d 1847c 5473d 3287c 5473d 3287c 5473d 4055c 4369d 4535c 4369d 4367c",
     "4369d 37703e 2351d 127873e 2255d 5377e 3359d 5545e 3191c 5546e 3190d 5545e 3359d 98497c 457d",
     "30911e 1847d"],
    "-10800"⟩,
  ⟨["America/Argentina/Cordoba America/Cordoba America/Rosario"], "-15408 -14400 -10800 -7200",
    ["-1567453392r 334021392s 2903b 4729c 3311b 5881c 2879b 5881c 2879b 5881c 2879b 5881c 2903b",
     "5881c 2879b 5881c 2879b 5881c 2879b 5881c 2903b 2929c 8375b 2929c 15719b 1801c 20831b 5137c",
     "149015b 1801c 1847b 5473c 3287b 5473c 3287b 5473c 4055b 4369c 4535b 4369c 4367b 4369c 37703d",
     "2351c 127873d 2255c 5377d 3359c 5545d 3191b 5546d 3190c 5545d 3359c 129865d 1847c 5209d",
     "3527c"],
    "-10800"⟩,
  ⟨["America/Argentina/Jujuy America/Jujuy"], "-15672 -15408 -14400 -10800 -7200",
    ["-2372096328r 804642936s 334021392t 2903c 4729d 3311c 5881d 2879c 5881d 2879c 5881d 2879c",
     "5881d 2903c 5881d 2879c 5881d 2879c 5881d 2879c 5881d 2903c 2929d 8375c 2929d 15719c 1801d",
     "20831c 5137d 149015c 1801d 1847c 5473d 3287c 5473d 3287c 5473d 4055c 4369d 4535c 4369d 4367c",
     "4369d 37703e 2351d 127873e 2255d 5377e 3359c 5714d 3359c 4873e 3526d 5545e 3359d 129865e",
     "1847d"],
    "-10800"⟩,
  ⟨["America/Argentina/La_Rioja"], "-16044 -15408 -14400 -10800 -7200",
    ["-2372095956r 804642564s 334021392t 2903c 4729d 3311c 5881d 2879c 5881d 2879c 5881d 2879c",
     "5881d 2903c 5881d 2879c 5881d 2879c 5881d 2879c 5881d 2903c 2929d 8375c 2929d 15719c 1801d",
     "20831c 5137d 149015c 1801d 1847c 5473d 3287c 5473d 3287c 5473d 4055c 4369d 4535c 4369d 4367c",
     "4369d 37703e 2351d 127873e 2255d 5377e 3359d 5545e 3143c 1610d 3983e 3191d 5545e 3359d",
     "98497c 457d 30911e 1847d"],
    "-10800"⟩,
  ⟨["America/Argentina/Mendoza America/Mendoza"], "-16516 -15408 -14400 -10800 -7200",
    ["-2372095484r 804642092s 334021392t 2903c 4729d 3311c 5881d 2879c 5881d 2879c 5881d 2879c",
     "5881d 2903c 5881d 2879c 5881d 2879c 5881d 2879c 5881d 2903c 2929d 8375c 2929d 15719c 1801d",
     "20831c 5137d 149015c 1801d 1847c 5473d 3287c 5473d 3287c 5473d 4055c 4369d 4535c 4369d 4367c",
     "4369d 37703e 2351d 127873e 2255d 5377e 3359c 5402d 3287c 5473d 3311c 5545e 3358d 98281c",
     "3025d 28559e 1847d"],
    "-10800"⟩,
  ⟨["America/Argentina/Rio_Gallegos"], "-16612 -15408 -14400 -10800 -7200",
    ["-2372095388r 804641996s 334021392t 2903c 4729d 3311c 5881d 2879c 5881d 2879c 5881d 2879c",
     "5881d 2903c 5881d 2879c 5881d 2879c 5881d 2879c 5881d 2903c 2929d 8375c 2929d 15719c 1801d",
     "20831c 5137d 149015c 1801d 1847c 5473d 3287c 5473d 3287c 5473d 4055c 4369d 4535c 4369d 4367c",
     "4369d 37703e 2351d 127873e 2255d 5377e 3359d 5545e 3191d 5545e 3191d 5545e 3359d 98497c 457d",
     "30911e 1847d"],
    "-10800"⟩,
  ⟨["America/Argentina/Salta"], "-15700 -15408 -14400 -10800 -7200",
    ["-2372096300r 804642908s 334021392t 2903c 4729d 3311c 5881d 2879c 5881d 2879c 5881d 2879c",
     "5881d 2903c 5881d 2879c 5881d 2879c 5881d 2879c 5881d 2903c 2929d 8375c 2929d 15719c 1801d",
     "20831c 5137d 149015c 1801d 1847c 5473d 3287c 5473d 3287c 5473d 4055c 4369d 4535c 4369d 4367c",
     "4369d 37703e 2351d 127873e 2255d 5377e 3359d 5545e 3191c 5546e 3190d 5545e 3359d 129865e",
     "1847d"],
    "-10800"⟩,
  ⟨["America/Argentina/San_Juan"], "-16444 -15408 -14400 -10800 -7200",
    ["-2372095556r 804642164s 334021392t 2903c 4729d 3311c 5881d 2879c 5881d 2879c 5881d 2879c",
     "5881d 2903c 5881d 2879c 5881d 2879c 5881d 2879c 5881d 2903c 2929d 8375c 2929d 15719c 1801d",
     "20831c 5137d 149015c 1801d 1847c 5473d 3287c 5473d 3287c 5473d 4055c 4369d 4535c 4369d 4367c",
     "4369d 37703e 2351d 127873e 2255d 5377e 3359d 5545e 3143c 1610d 3983e 3191d 5545e 3359d",
     "98473c 1321d 30071e 1847d"],
    "-10800"⟩,
  ⟨["America/Argentina/San_Luis"], "-15924 -15408 -14400 -10800 -7200",
    ["-2372096076r 804642684s 334021392t 2903c 4729d 3311c 5881d 2879c 5881d 2879c 5881d 2879c",
     "5881d 2903c 5881d 2879c 5881d 2879c 5881d 2879c 5881d 2903c 2929d 8375c 2929d 15719c 1801d",
     "20831c 5137d 149015c 1801d 1847c 5473d 3287c 5473d 3287c 5473d 4055c 4369d 4535c 4369d 4367c",
     "4369d 37703e 2351d 127873e 2255d 5377e 3599c 5162d 3287c 2209d 113951c 1321d 30071e 527d",
     "1153c 5209d 3527c 5209d"],
    "-10800"⟩,
  ⟨["America/Argentina/Tucuman"], "-15652 -15408 -14400 -10800 -7200",
    ["-2372096348r 804642956s 334021392t 2903c 4729d 3311c 5881d 2879c 5881d 2879c 5881d 2879c",
     "5881d 2903c 5881d 2879c 5881d 2879c 5881d 2879c 5881d 2903c 2929d 8375c 2929d 15719c 1801d",
     "20831c 5137d 149015c 1801d 1847c 5473d 3287c 5473d 3287c 5473d 4055c 4369d 4535c 4369d 4367c",
     "4369d 37703e 2351d 127873e 2255d 5377e 3359d 5545e 3191c 5546e 3190d 5545e 3359d 98497c 289d",
     "31079e 1847d 5209e 3527d"],
    "-10800"⟩,
  ⟨["America/Argentina/Ushuaia"], "-16392 -15408 -14400 -10800 -7200",
    ["-2372095608r 804642216s 334021392t 2903c 4729d 3311c 5881d 2879c 5881d 2879c 5881d 2879c",
     "5881d 2903c 5881d 2879c 5881d 2879c 5881d 2879c 5881d 2903c 2929d 8375c 2929d 15719c 1801d",
     "20831c 5137d 149015c 1801d 1847c 5473d 3287c 5473d 3287c 5473d 4055c 4369d 4535c 4369d 4367c",
     "4369d 37703e 2351d 127873e 2255d 5377e 3359d 5545e 3191d 5545e 3191d 5545e 3359d 98449c 505d",
     "30911e 1847d"],
    "-10800"⟩,
  ⟨["America/Aruba"], "-16824 -16200 -14400",
    ["-1826738376r 1668988176s"],
    "-14400"⟩,
  ⟨["America/Asuncion"], "-13840 -14400 -10800",
    ["-1206389360r 1293149360s 13127b 13153c 3647b 5137c 3623b 5137c 3623b 5137c 4367b 4393c 4391b",
     "4393c 4367b 4393c 4367b 4393c 4367b 4393c 4391b 4393c 4367b 4393c 4367b 4393c 4367b 4393c",
     "4391b 4393c 4367b 4897c 3863b 4393c 4367b 4513c 3527b 5233c 4247b 4417c 3575b 5185c 3551b",
     "5209c 3647b 5257c 3359b 5377c 3527b 5209c 3695b 5041c 3695b 5041c 3695b 5209c 4367b 3529c",
     "5207b 3697c 5039b 4705c 3527b 5209c 3527b 5209c 3527b 5377c 3359b 5377c 3359b 5377c 4199b",
     "4201c 4535b 4201c 4535b 4369c 4031b 4705c 4031b 4705c 4031b 4705c 4199b 4537c 4199b 4537c",
     "4199b 4705c 4031b 4705c 4031b 4705c 4199b 4537c 4199b 4537c 4199b 4537c 4199b 4705c"],
    "-10800"⟩,
  ⟨["America/Atikokan America/Coral_Harbour"], "-21988 -21600 -18000",
    ["-2366733212r 734666012s 4703b 192191c"],
    "-18000"⟩,
  ⟨["America/Bahia"], "-9244 -10800 -7200",
    ["-1767216356r 560258756s 4332b 4441c 4319b 146113c 3264b 5496c 2903b 5857c 2927b 5857c 2159b",
     "94441c 1991b 8065c 1415b 5881c 2159b 5881c 2879b 5881c 2903b 154921c 3191b 5377c 2687b 6073c",
     "2519b 6049c 2519b 6217c 2855b 6049c 2855b 5881c 2687b 6217c 2351b 6217c 3023b 5713c 3023b",
     "5713c 2855b 5713c 3191b 5569c 3503b 5377c 3191b 5377c 3527b 5377c 3191b 5713c 3023b 6217c",
     "2519b 75937c 3191b"],
    "-10800"⟩,
  ⟨["America/Bahia_Banderas"], "-25260 -25200 -21600 -18000",
    ["-420761b 47664c 30095b 3985c 3695b 4393c 88199b 472971c 4871b 3865c 4871b 3865c 4871b 3865c",
     "5039b 3697c 5039b 4537c 3527b 4537c 4871b 3865c 4871b 3865c 5039b 3697c 5039b 3697c 5039b",
     "3697c 5039b 3865c 4871b 3865c 4871b 3865d 5038c 3697d 5039c 3697d 5039c 3865d 4871c 3865d",
     "4871c 3865d 4871c 3865d 5039c 3697d 5039c 3697d 5039c 3865d 4871c 3865d 4871c 3865d 5039c",
     "3697d 5039c"],
    "-21600"⟩,
  ⟨["America/Barbados"], "-14309 -14400 -10800 -12600",
    ["-1841256091r 966992491s 3217b 5855c 3025b 5231d 3673b 287112c 2687b 4705c 4031b 4705c 4031b",
     "4873c 3791b"],
    "-14400"⟩,
  ⟨["America/Belem"], "-11636 -10800 -7200",
    ["-1767213964r 560256364s 4332b 4441c 4319b 146113c 3264b 5496c 2903b 5857c 2927b 5857c 2159b",
     "94441c 1991b 8065c 1415b 5881c 2159b 5881c 2879b 5881c 2903b 154921c 3191b 5377c 2687b 6073c",
     "2519b"],
    "-10800"⟩,
  ⟨["America/Belize"], "-21168 -21600 -19800 -18000",
    ["-1822500432r 205546032s 181410j 342750k 191490j 332670k 191490j 332670k 191490j 342750k",
     "181410j 342750k 181410j 342750k 191490j 332670k 191490j 332670k 191490j 332670k 191490j",
     "342750k 181410j 342750k 181410j 342750k 191490j 332670k 191490j 332670k 191490j 342750k",
     "181410j 342750k 181410j 342750k 181410j 342750k 191490j 332670k 191490j 332670k 191490j",
     "342750k 181410j 342750k 181410j 342750k 191490j 191550l 30407b 15793c 191490j 332670k",
     "191490j 332670k 191490j 342750k 181410j 342750k 181410j 342750k 191490j 332670k 191490j",
     "332670k 191490j 332670k 191490j 342750k 181410j 342750k 181410j 342750k 191490j 332670k",
     "191490j 332670k 191490j 342750k 181410j 342750k 181410j 342750k 181410j 342750k 191490j",
     "332670k 191490j 332670k 191490j 342750k 181410j 3058590l 1583b 77617d 1343b"],
    "-21600"⟩,
  ⟨["America/Blanc-Sablon"], "-13708 -14400 -10800",
    ["-2713896692r 1081822292s 4703b 204145c 31895b"],
    "-14400"⟩,
  ⟨["America/Boa_Vista"], "-14560 -14400 -10800",
    ["-1767211040r 560257040s 4332b 4441c 4319b 146113c 3264b 5496c 2903b 5857c 2927b 5857c 2159b",
     "94441c 1991b 8065c 1415b 5881c 2159b 5881c 2879b 5881c 2903b 154921c 3191b 5377c 2687b 6073c",
     "2519b 102145c 3527b 5377c 167b"],
    "-14400"⟩,
  ⟨["America/Bogota"], "-17776 -18000 -14400",
    ["-1739041424r 2443910624s 6719b"],
    "-18000"⟩,
  ⟨["America/Boise"], "-27889 -28800 -25200 -21600",
    ["-754900b 301214c 5039b 3697c 5039b 31081c 164327d 31895c 189169d 4367c 4369d 4367c 4369d",
     "4367c 4369d 4367c 4369d 4535c 4369d 4367c 4369d 4367c 2353d 6383c 2857d 5879c 4369d 4535c",
     "4201d 4535c 4369d 4367c 4369d 4367c 4369d 4367c 4369d 4367c 4369d 4535c 4201d 4535c 4369d",
     "4367c 4369d 4367c 4369d 4367c 3865d 4871c 3865d 5039c 3697d 5039c 3697d 5039c 3865d 4871c",
     "3865d 4871c 3865d 5039c 3697d 5039c 3697d 5039c 3865d 4871c 3865d 4871c 3865d 4871c 3865d",
     "5039c 3697d 5039c 3697d 5039c 3865d 4871c 3865d 4871c 3865d 5039c 3697d 5039c 3697d 5039c"],
    "-25200 -21600 3 2 0 7200 11 1 0 7200"⟩,
  ⟨["America/Cambridge_Bay"], "0 -25200 -21600 -18000",
    ["-438312b 193809c 31895b 233017c 4367b 4369c 4367b 4369c 4367b 4369c 4367b 4369c 4535b 4201c",
     "4535b 4369c 4367b 4369c 4367b 4369c 4367b 4369c 4367b 4369c 4535b 4201c 4535b 4369c 4367b",
     "4369c 4367b 4369c 4367b 3865c 4871b 3865c 5039b 3697c 5039b 3697c 5039b 3865c 4871b 3865c",
     "4871b 3865c 5039b 3697c 5039b 3697c 5039b 3865c 4871b 3865c 4871b 3865c 4871b 3865c 8735d",
     "5205c 8571b 3865c 4871b 3865c 4871b 3865c 5039b 3697c 5039b 3697c 5039b"],
    "-25200 -21600 3 2 0 7200 11 1 0 7200"⟩,
  ⟨["America/Campo_Grande"], "-13108 -14400 -10800",
    ["-1767212492r 560258492s 4332b 4441c 4319b 146113c 3264b 5496c 2903b 5857c 2927b 5857c 2159b",
     "94441c 1991b 8065c 1415b 5881c 2159b 5881c 2879b 5881c 2903b 154921c 3191b 5377c 2687b 6073c",
     "2519b 6049c 2519b 6217c 2855b 6049c 2855b 5881c 2687b 6217c 2351b 6217c 3023b 5713c 3023b",
     "5713c 2855b 5713c 3191b 5569c 3503b 5377c 3191b 5377c 3527b 5377c 3191b 5713c 3023b 6217c",
     "2519b 5881c 2855b 6265c 2639b 5713c 3023b 6217c 2687b 5545c 3023b 5881c 2855b 5881c 3023b",
     "5713c 3023b 5713c 3191b 5713c 2855b 5881c 2855b 5881c 3023b 5713c 3023b 5713c 3023b 5713c",
     "3023b 6217c 2519b"],
    "-14400"⟩,
  ⟨["America/Cancun"], "-20824 -21600 -18000 -14400",
    ["-420762b 525818c 8973b 116211c 4871b 3865c 8735d 2855c 2017b 3865c 5039b 3697c 5039b 4537c",
     "3527b 4537c 4871b 3865c 4871b 3865c 5039b 3697c 5039b 3697c 5039b 3697c 5039b 3865c 4871b",
     "3865c 4871b 3865c 5039b 3697c 5039b 3697c 5039b 3865c 4871b 3865c 4871b 2353c"],
    "-18000"⟩,
  ⟨["America/Caracas"], "-16064 -16060 -16200 -14400",
    ["-2524505536r 697766396s 1668988940t 22582230k 73584d"],
    "-14400"⟩,
  ⟨["America/Cayenne"], "-12560 -14400 -10800",
    ["-1846269040r 1775176240s"],
    "-10800"⟩,
  ⟨["America/Cayman"], "-19532 -18430 -18000",
    ["-2524502068r 696814898s"],
    "-18000"⟩,
  ⟨["America/Chicago US/Central"], "-21036 -21600 -18000",
    ["-754902b 301214c 5039b 3697c 5039b 5545c 3359b 3529c 5207b 4369c 3527b 5209c 3695b 5041c",
     "3695b 5041c 3695b 5041c 3695b 5041c 3695b 5209c 3695b 5041c 3695b 5041c 3695b 5041c 3695b",
     "5041c 3695b 5209c 3527b 5209c 3695b 5041c 3695b 3697c 6215b 3865c 3695b 5041c 3695b 5209c",
     "3527b 5209c 3695b 5041c 3695b 3217c 31895b 5041c 3695b 5041c 3695b 5041c 3695b 5041c 3695b",
     "5209c 3527b 5209c 3695b 5041c 3695b 5041c 3695b 5041c 3695b 5041c 4535b 4369c 4367b 4369c",
     "4367b 4369c 4367b 4369c 4367b 4369c 4535b 4369c 4367b 4369c 4367b 4369c 4367b 4369c 4367b",
     "4369c 4535b 4201c 4535b 4369c 4367b 4369c 4367b 4369c 4367b 4369c 4367b 4369c 4535b 4369c",
     "4367b 4369c 4367b 1681c 7055b 2857c 5879b 4369c 4535b 4201c 4535b 4369c 4367b 4369c 4367b",
     "4369c 4367b 4369c 4367b 4369c 4535b 4201c 4535b 4369c 4367b 4369c 4367b 4369c 4367b 3865c",
     "4871b 3865c 5039b 3697c 5039b 3697c 5039b 3865c 4871b 3865c 4871b 3865c 5039b 3697c 5039b",
     "3697c 5039b 3865c 4871b 3865c 4871b 3865c 4871b 3865c 5039b 3697c 5039b 3697c 5039b 3865c",
     "4871b 3865c 4871b 3865c 5039b 3697c 5039b 3697c 5039b"],
    "-21600 -18000 3 2 0 7200 11 1 0 7200"⟩,
  ⟨["America/Chihuahua"], "-25460 -25200 -21600 -18000",
    ["-420761b 47664c 30095b 3985c 3695b 4393c 561169d 4871c 3865d 4871c 8737b 3865c 5039b 3697c",
     "5039b 4537c 3527b 4537c 4871b 3865c 4871b 3865c 5039b 3697c 5039b 3697c 5039b 3697c 5039b",
     "3865c 4871b 3865c 4871b 3865c 5039b 3697c 5039b 3697c 5039b 3865c 4871b 3865c 4871b 3865c",
     "4871b 3865c 5039b 3697c 5039b 3697c 5039b 3865c 4871b 3865c 4871b 3865c 5039b 3697c"],
    "-21600"⟩,
  ⟨["America/Ciudad_Juarez"], "-25556 -25200 -21600 -18000",
    ["-420761b 47664c 30095b 3985c 3695b 4393c 561169d 4871c 3865d 4871c 8737b 3865c 5039b 3697c",
     "5039b 4537c 3527b 4537c 4871b 3865c 4871b 3865c 5039b 3697c 5039b 3697c 5039b 3697c 5039b",
     "3865c 4871b 3865c 4871b 3361c 5711b 3025c 5711b 3025c 5711b 3025c 5711b 3025c 5711b 3025c",
     "5711b 3193c 5711b 3025c 5711b 3025c 5711b 3025c 5711b 3025c 5711b 3193c 5711b 3025c 6285b"],
    "-25200 -21600 3 2 0 7200 11 1 0 7200"⟩,
  ⟨["America/Costa_Rica"], "-20173 -21600 -18000",
    ["-1545071027r 1833841427s 2351b 6385c 2351b 93217c 3911b 4825c 1367b"],
    "-21600"⟩,
  ⟨["America/Coyhaique"], "-17296 -16965 -18000 -14400 -10800",
    ["-2524504304r 631842869s 204250635r 69205365t 25399035r 257820165t 18400635s 3673d 5087c",
     "3673d 5087c 3673d 5087c 3673d 5111c 3673d 85439c 1465d 40895c 1224d 188064e 3527d 5713e",
     "3023d 4705e 3695d 5041e 3695d 5209e 3527d 4873e 3863d 5209e 3527d 5209e 3695d 5041e 3695d",
     "5041e 3695d 5209e 3527d 5209e 3527d 5209e 3695d 5041e 3695d 5041e 3695d 5041e 3695d 5209e",
     "3527d 5209e 3527d 5209e 4367d 4369e 3695d 5041e 3695d 5209e 3527d 4537e 4199d 5209e 3695d",
     "5041e 3695d 5041e 3695d 5041e 3695d 5209e 3527d 5209e 4031d 4705e 3695d 4705e 4535d 4537e",
     "3695d 5209e 3527d 5209e 3527d 5209e 3527d 5209e 3695d 5041e 3695d 5041e 3695d 5209e 3527d",
     "5209e 4031d 4705e 3695d 5041e 4199d 4537e 5039d 2521e 6047d 3025e 5711d 3193e 5543d 3193e",
     "14783d 2185e 6551d 2185e 6551d 2185e 5711d 3697e 5039d 3697e 5039d 3697e 5039d 3865e 4871d",
     "3697e 5207d 3697e"],
    "-10800"⟩,
  ⟨["America/Creston"], "-27964 -25200 -28800",
    ["-2713882436r 1033427636s 14617b"],
    "-25200"⟩,
  ⟨["America/Cuiaba"], "-13460 -14400 -10800",
    ["-1767212140r 560258140s 4332b 4441c 4319b 146113c 3264b 5496c 2903b 5857c 2927b 5857c 2159b",
     "94441c 1991b 8065c 1415b 5881c 2159b 5881c 2879b 5881c 2903b 154921c 3191b 5377c 2687b 6073c",
     "2519b 6049c 2519b 6217c 2855b 6049c 2855b 5881c 2687b 6217c 2351b 6217c 3023b 5713c 3023b",
     "5713c 2855b 5713c 3191b 5569c 3503b 5377c 3191b 5377c 3527b 5377c 3191b 5713c 3023b 6217c",
     "2519b 15001c 2639b 5713c 3023b 6217c 2687b 5545c 3023b 5881c 2855b 5881c 3023b 5713c 3023b",
     "5713c 3191b 5713c 2855b 5881c 2855b 5881c 3023b 5713c 3023b 5713c 3023b 5713c 3023b 6217c",
     "2519b"],
    "-14400"⟩,
  ⟨["America/Curacao America/Kralendijk America/Lower_Princes"], "-16547 -16200 -14400",
    ["-1826738653r 1668988453s"],
    "-14400"⟩,
  ⟨["America/Danmarkshavn"], "-4480 -10800 -7200 0",
    ["-1686091520r 2009936720s 4196b 4368c 4368b 4368c 4368b 4368c 4368b 4368c 4536b 4368c 4368b",
     "4368c 4368b 4368c 4368b 4368c 4368b 4368c 4368b 4368c 4536b 4368c 4368b 4368c 4368b 4368c",
     "4368b 4368c 4368b 4368c 4368b 2378d"],
    "0"⟩,
  ⟨["America/Dawson"], "-33460 -32400 -28800 -25200",
    ["-2188996940r 556940540s 4703b 5041c 3837b 195267c 31895b 171527d 4536b 70056c 56953d 4367c",
     "4369d 4367c 4369d 4535c 4201d 4535c 4369d 4367c 4369d 4367c 4369d 4367c 3865d 4871c 3865d",
     "5039c 3697d 5039c 3697d 5039c 3865d 4871c 3865d 4871c 3865d 5039c 3697d 5039c 3697d 5039c",
     "3865d 4871c 3865d 4871c 3865d 4871c 3865d 5039c 3697d 5039c 3697d 5039c 3865d 4871c 3865d",
     "4871c 3865d 5039c 3697d 5039c 3697d 5039c 3193d 5711c 3025d 5711c 3025d 5711c 3193d 5711c",
     "3025d 5711c 3025d 5711c 3025d 5711c 3025d 5711c 3025d 5711c 3193d 5711c 3025d 5711c 3025d",
     "5711c 3025d 5711c 3025d"],
    "-25200"⟩,
  ⟨["America/Dawson_Creek"], "-28856 -28800 -25200",
    ["-2713881544r 1081821544s 4703b 204145c 31895b 13777c 3695b 5041c 3695b 5041c 3695b 5209c",
     "3527b 5209c 3695b 5041c 3695b 5041c 3695b 5041c 3695b 5041c 3695b 5209c 3695b 5041c 3695b",
     "5041c 3695b 5041c 3695b 5041c 3695b 5209c 3527b 5209c 4367b 4369c 4367b 4369c 4367b 4369c",
     "4535b 4201c 4535b 4369c 4367b 4369c 4367b 4369c 4367b 4369c 4367b 4369c 4535b 4369c"],
    "-25200"⟩,
  ⟨["America/Denver America/Shiprock Navajo US/Mountain"], "-25196 -25200 -21600",
    ["-754901b 301214c 5039b 3697c 5039b 3697c 5207b 3529c 1343b 181633c 31895b 171529c 4535b",
     "4201c 4535b 4369c 4367b 4369c 4367b 4369c 4367b 4369c 4367b 4369c 4535b 4369c 4367b 4369c",
     "4367b 1681c 7055b 2857c 5879b 4369c 4535b 4201c 4535b 4369c 4367b 4369c 4367b 4369c 4367b",
     "4369c 4367b 4369c 4535b 4201c 4535b 4369c 4367b 4369c 4367b 4369c 4367b 3865c 4871b 3865c",
     "5039b 3697c 5039b 3697c 5039b 3865c 4871b 3865c 4871b 3865c 5039b 3697c 5039b 3697c 5039b",
     "3865c 4871b 3865c 4871b 3865c 4871b 3865c 5039b 3697c 5039b 3697c 5039b 3865c 4871b 3865c",
     "4871b 3865c 5039b 3697c 5039b 3697c 5039b"],
    "-25200 -21600 3 2 0 7200 11 1 0 7200"⟩,
  ⟨["America/Detroit US/Michigan"], "-19931 -21600 -18000 -14400",
    ["-2051202469r 327119269s 234407d 31895c 22513d 3695c 9842341l 197339k 4369d 4367c 39481d",
     "4367c 1681d 7055c 4369d 4367c 4369d 4535c 4201d 4535c 4369d 4367c 4369d 4367c 4369d 4367c",
     "4369d 4367c 4369d 4535c 4201d 4535c 4369d 4367c 4369d 4367c 4369d 4367c 3865d 4871c 3865d",
     "5039c 3697d 5039c 3697d 5039c 3865d 4871c 3865d 4871c 3865d 5039c 3697d 5039c 3697d 5039c",
     "3865d 4871c 3865d 4871c 3865d 4871c 3865d 5039c 3697d 5039c 3697d 5039c 3865d 4871c 3865d",
     "4871c 3865d 5039c 3697d 5039c 3697d 5039c"],
    "-18000 -14400 3 2 0 7200 11 1 0 7200"⟩,
  ⟨["America/Dominica"], "-14736 -14400",
    ["-1846266804r"],
    "-14400"⟩,
  ⟨["America/Edmonton America/Yellowknife Canada/Mountain"], "-27232 -25200 -21600",
    ["-1998663968r 366600368s 4703b 4033c 1055b 8017c 4535b 4201c 3695b 5209c 3527b 5209c 3695b",
     "160969c 31895b 13777c 3695b 215545c 4367b 4369c 4367b 4369c 4367b 4369c 4367b 4369c 4535b",
     "4201c 4535b 4369c 4367b 4369c 4367b 4369c 4367b 4369c 4367b 4369c 4535b 4201c 4535b 4369c",
     "4367b 4369c 4367b 4369c 4367b 3865c 4871b 3865c 5039b 3697c 5039b 3697c 5039b 3865c 4871b",
     "3865c 4871b 3865c 5039b 3697c 5039b 3697c 5039b 3865c 4871b 3865c 4871b 3865c 4871b 3865c",
     "5039b 3697c 5039b 3697c 5039b 3865c 4871b 3865c 4871b 3865c 5039b 3697c 5039b 3697c 5039b"],
    "-25200 -21600 3 2 0 7200 11 1 0 7200"⟩,
  ⟨["America/Eirunepe"], "-16768 -18000 -14400",
    ["-1767208832r 560258432s 4332b 4441c 4319b 146113c 3264b 5496c 2903b 5857c 2927b 5857c 2159b",
     "94441c 1991b 8065c 1415b 5881c 2159b 5881c 2879b 5881c 2903b 154921c 3191b 5377c 2687b 6073c",
     "2519b 49897c 3023b 125713c 47159b"],
    "-18000"⟩,
  ⟨["America/El_Salvador"], "-21408 -21600 -18000",
    ["-1546279392r 2093299392s 3527b 5209c 3527b"],
    "-21600"⟩,
  ⟨["America/Ensenada America/Santa_Isabel America/Tijuana Mexico/BajaNorte"], "-28084 -25200 -28800",
    ["-420761b 17520c 30145b 30095c 3289b 4367c 92617b 31223c 20929b 6815c 11329b 3503c 5211b",
     "3695c 5041b 3695c 5040b 3696c 5040b 3696c 5040b 3696c 5208b 3696c 5040b 3696c 5040b 3696c",
     "5040b 3696c 5040b 3696c 5208b 3528c 5208b 4368c 4368b 4368c 4368b 4368c 4368b 4536c 4200b",
     "4536c 4369b 4367c 4369b 4367c 4369b 4367c 4369b 4367c 4369b 4535c 4369b 4367c 4369b 4367c",
     "1681b 7055c 2857b 5879c 4369b 4535c 4201b 4535c 4369b 4367c 4369b 4367c 4369b 4367c 4369b",
     "4367c 4369b 4535c 4201b 4535c 4369b 4367c 4369b 4367c 4369b 4367c 3865b 4871c 3865b 5039c",
     "3697b 5039c 3697b 5039c 3865b 4871c 3865b 4871c 3865b 5039c 3697b 5039c 3697b 5039c 3865b",
     "4871c 3865b 4871c 3865b 4871c 3865b 5039c 3697b 5039c 3697b 5039c 3865b 4871c 3865b 4871c",
     "3865b 5039c 3697b 5039c 3697b 5039c 3697b 5039c 3865b 4871c 3865b 4871c"],
    "-28800 -25200 3 2 0 7200 11 1 0 7200"⟩,
  ⟨["America/Fort_Nelson"], "-29447 -28800 -25200",
    ["-2713880953r 1081820953s 4703b 204145c 31895b 13777c 3695b 5041c 3695b 5041c 3695b 5209c",
     "3527b 5209c 3695b 5041c 3695b 5041c 3695b 5041c 3695b 5041c 3695b 5209c 3695b 5041c 3695b",
     "5041c 3695b 5041c 3695b 5041c 3695b 5209c 3527b 5209c 4367b 4369c 4367b 4369c 4367b 4369c",
     "4535b 4201c 4535b 4369c 4367b 4369c 4367b 4369c 4367b 4369c 4367b 4369c 4535b 4369c 4367b",
     "4369c 4367b 4369c 4367b 4369c 4367b 4369c 4535b 4201c 4535b 4369c 4367b 4369c 4367b 4369c",
     "4367b 4369c 4367b 4369c 4535b 4201c 4535b 4369c 4367b 4369c 4367b 4369c 4367b 3865c 4871b",
     "3865c 5039b 3697c 5039b 3697c 5039b 3865c 4871b 3865c 4871b 3865c 5039b 3697c 5039b 3697c",
     "5039b 3865c 4871b 3865c 4871b 3865c 4871b 3865c 5039b 3697c 5039b 3697c 5039b 3865c 4871b",
     "3865c 4871b 3865c 5039b 3697c 5039b 3697c 5039b 3193c 5711b 3025c 5711b 3025c 5711b 3193c",
     "5711b 3025c 5711b 3025c 5711b 3025c 5711b 3025c 5711b 3025c"],
    "-25200"⟩,
  ⟨["America/Fort_Wayne America/Indiana/Indianapolis America/Indianapolis",
    "US/East-Indiana"], "-20678 -21600 -18000 -14400",
    ["-754902b 301214c 5039b 3697c 5039b 189841c 2351b 3217c 31895b 5041c 3695b 5041c 3695b 5041c",
     "3695b 5041c 3695b 5209c 3527b 5209c 3695b 5041c 3695b 5041c 3695b 5041c 3695b 5041c 21335b",
     "5041c 96431d 4367c 4369d 4367c 310633d 5039c"],
    "-18000 -14400 3 2 0 7200 11 1 0 7200"⟩,
  ⟨["America/Fortaleza"], "-9240 -10800 -7200",
    ["-29453606j 9337646k 4332b 4441c 4319b 146113c 3264b 5496c 2903b 5857c 2927b 5857c 2159b",
     "94441c 1991b 8065c 1415b 5881c 2159b 5881c 2879b 5881c 2903b 154921c 3191b 5377c 2687b 6073c",
     "2519b 6049c 2519b 6217c 2855b 84505c 3527b 5377c 335b 8569c 3023b"],
    "-10800"⟩,
  ⟨["America/Glace_Bay"], "-14388 -14400 -10800",
    ["-2131646412r 499572012s 4703b 204145c 31895b 66361c 3695b 162961c 4367b 4369c 4367b 4369c",
     "4367b 4369c 4367b 4369c 4535b 4201c 4535b 4369c 4367b 4369c 4367b 4369c 4367b 4369c 4367b",
     "4369c 4535b 4201c 4535b 4369c 4367b 4369c 4367b 4369c 4367b 3865c 4871b 3865c 5039b 3697c",
     "5039b 3697c 5039b 3865c 4871b 3865c 4871b 3865c 5039b 3697c 5039b 3697c 5039b 3865c 4871b",
     "3865c 4871b 3865c 4871b 3865c 5039b 3697c 5039b 3697c 5039b 3865c 4871b 3865c 4871b 3865c",
     "5039b 3697c 5039b 3697c 5039b"],
    "-14400 -10800 3 2 0 7200 11 1 0 7200"⟩,
  ⟨["America/Godthab America/Nuuk"], "-12416 -10800 -7200 -3600",
    ["-1686083584r 2009928784s 4196b 4368c 4368b 4368c 4368b 4368c 4368b 4368c 4536b 4368c 4368b",
     "4368c 4368b 4368c 4368b 4368c 4368b 4368c 4368b 4368c 4536b 4368c 4368b 4368c 4368b 4368c",
     "4368b 4368c 4368b 4368c 4368b 4536c 5040b 3696c 5040b 3696c 5040b 3696c 5208b 3528c 5208b",
     "3528c 5208b 3696c 5040b 3696c 5040b 3696c 5208b 3528c 5208b 3528c 5208b 3528c 5208b 3696c",
     "5040b 3696c 5040b 3696c 5208b 3528c 5208b 3528c 5208b 3696c 5040b 3696c 5040b 3696c 5040b",
     "3696c 5208b 3528c 5208b 3528c 5208b 3696c 5040b 3696c 5040b 3696c 5208b 3528c 5208b 3528c",
     "8904d"],
    "-7200 -3600 3 5 0 -3600 10 5 0 0"⟩,
  ⟨["America/Goose_Bay"], "-14500 -12652 -9052 -12600 -9000 -14400 -10800 -7200",
    ["-2713895900r 1081819752s 4703b 143951d 35251148u 3527d 5209e 3527d 5209e 3527d 5377e 3359d",
     "5377e 3527d 5209e 3527d 5209e 29713d 5377e 3527d 5209e 3527d 5209e 3527d 5209e 3527d 5377e",
     "3527d 4873e 3695d 5041e 3695d 5041e 3695d 5041e 3695d 5041e 3695d 5209e 3695d 5041e 3695d",
     "5041e 3695d 5041e 3695d 5041e 4535d 4369e 4367d 4369e 4367d 4369e 4367d 4369e 4367d 4369e",
     "4535d 3241f 57630o 4535f 4369g 4367f 4369g 4367f 4369g 4367f 4369g 4367f 4369g 4535f 4369g",
     "4367f 4369g 4367f 4369g 4367f 4369g 4367f 4369g 4535f 4201g 4535f 4369g 4367f 4369g 4367f",
     "4369g 4367f 4369g 4367f 4369g 4535f 4201g 4535f 4369g 4367f 4369g 4367f 4369g 4367f 231781o",
     "4871f 3865h 5038f 3698g 5039f 3697g 5039f 3865g 4871f 3865g 4871f 3865g 5039f 3697g 5039f",
     "3697g 5039f 3865g 4871f 3865g 4871f 3865g 4871f 3865g 5039f 3697g 5039f 3697g 5039f 3865g",
     "4871f 3865g 4871f 3865g 5039f 3697g 5039f 3697g 5039f 3193g 5711f 3025g 5711f 3025g 5711f",
     "3193g 5711f 3025g"],
    "-14400 -10800 3 2 0 7200 11 1 0 7200"⟩,
  ⟨["America/Grand_Turk"], "-17072 -18430 -18000 -14400",
    ["-2524504528r 696817358s 2121904370t 4367c 4369d 4367c 4369d 4367c 4369d 4535c 4201d 4535c",
     "4369d 4367c 4369d 4367c 4369d 4367c 3865d 4871c 3865d 5039c 3697d 5039c 3697d 5039c 3865d",
     "4871c 3865d 4871c 3865d 5039c 3697d 5039c 3697d 5039c 3865d 4871c 3865d 4871c 3865d 4871c",
     "3865d 5039c 3697d 5039c 3697d 5039c 3865d 4871c 3865d 4871c 3865d 5039c 3697d 5039c 3697d",
     "5039c 3193d 5711c 3025d 5711c 3025d 5711c 3193d 5711c 3025d 5711c 3025d 5711c 3025d 5711c",
     "3025d 5711c 3025d 32087c"],
    "-18000 -14400 3 2 0 7200 11 1 0 7200"⟩,
  ⟨["America/Grenada"], "-14820 -14400",
    ["-30771113j"],
    "-14400"⟩,
  ⟨["America/Guadeloupe"], "-14768 -14400",
    ["-1848254032r"],
    "-14400"⟩,
  ⟨["America/Guatemala"], "-21724 -21600 -18000",
    ["-1617040676r 1740095876s 2183b 80953c 2975b 65737c 4031b 128377c 3695b"],
    "-21600"⟩,
  ⟨["America/Guayaquil"], "-19160 -18840 -18000 -14400",
    ["-2524502440r 1293753280s 32561266l 1655c"],
    "-18000"⟩,
  ⟨["America/Guyana"], "-13959 -14400 -13500 -10800",
    ["-1843589241r 113011641s 31777905l 8762415j"],
    "-14400"⟩,
  ⟨["America/Halifax Canada/Atlantic"], "-15264 -14400 -10800",
    ["-2131645536r 435368736s 4391b 13443c 4703b 13439c 2687b 6001c 2927b 5689c 3071b 5833c 2903b",
     "5833c 3215b 5521c 3551b 5521c 2879b 5521c 3551b 5521c 2855b 5881c 2735b 6001c 3047b 5689c",
     "3383b 5185c 3551b 5185c 3719b 5521c 2855b 6217c 2879b 5881c 2519b 5521c 3551b 5185c 3551b",
     "5857c 2879b 5353c 3551b 5185c 3551b 3195c 31895b 5041c 3695b 5041c 3695b 5041c 3695b 5041c",
     "3695b 13945c 3695b 5041c 3695b 5041c 3695b 5041c 3695b 13945c 3695b 5041c 3695b 5041c 3695b",
     "5041c 3695b 22681c 4367b 4369c 4367b 4369c 4367b 4369c 4535b 4201c 4535b 4369c 4367b 4369c",
     "4367b 4369c 4367b 4369c 4367b 4369c 4535b 4369c 4367b 4369c 4367b 4369c 4367b 4369c 4367b",
     "4369c 4535b 4201c 4535b 4369c 4367b 4369c 4367b 4369c 4367b 4369c 4367b 4369c 4535b 4201c",
     "4535b 4369c 4367b 4369c 4367b 4369c 4367b 3865c 4871b 3865c 5039b 3697c 5039b 3697c 5039b",
     "3865c 4871b 3865c 4871b 3865c 5039b 3697c 5039b 3697c 5039b 3865c 4871b 3865c 4871b 3865c",
     "4871b 3865c 5039b 3697c 5039b 3697c 5039b 3865c 4871b 3865c 4871b 3865c 5039b 3697c 5039b",
     "3697c 5039b"],
    "-14400 -10800 3 2 0 7200 11 1 0 7200"⟩,
  ⟨["America/Havana Cuba"], "-19768 -19776 -18000 -14400",
    ["-2524501832r 1121688008s 91279824t 2927c 102073d 2183c 6553d 2351c 6553d 2183c 24025d 2183c",
     "6553d 2183c 164353d 2903c 5785d 3023c 4513d 3719c 5209d 3527c 5545d 4367c 4369d 4367c 4369d",
     "4535c 4369d 3863c 4873d 3887c 4849d 3911c 4825d 4367c 4369d 4535c 4201d 4535c 4537d 3695c",
     "3865d 5039c 3697d 5039c 5041d 3695c 5041d 3695c 5041d 3695c 5041d 3863c 4873d 3863c 3697d",
     "5039c 3697d 5039c 3865d 4871c 3865d 4871c 4201d 4703c 4201d 4536c 4200d 4536c 4200d 4536c",
     "4200d 4536c 4200d 4536c 4368d 4368c 4368d 4536c 4032d 5040c 3696d 5208c 3696d 5040c 3696d",
     "5040c 3864d 4872c 3864d 4872c 3696d 22680c 3192d 5544c 3360d 5376c 3192d 5544c 3360d 5544c",
     "3360d 5712c 3360d"],
    "-18000 -14400 3 2 0 0 11 1 0 3600"⟩,
  ⟨["America/Hermosillo"], "-26632 -25200 -21600",
    ["-420761b 47664c 30095b 3985c 3695b 4393c 88199b 472971c 4871b 3865c 4871b 3865c 4871b"],
    "-25200"⟩,
  ⟨["America/Indiana/Knox America/Knox_IN US/Indiana-Starke"], "-20790 -21600 -18000",
    ["-754902b 301214c 5039b 3697c 5039b 195409c 31895b 13777c 3695b 5041c 3695b 5041c 3695b 5209c",
     "3527b 5209c 3695b 5041c 3695b 5041c 3695b 5041c 3695b 5041c 4535b 4369c 4367b 4369c 3695b",
     "5041c 3695b 5041c 4367b 4369c 4535b 4369c 4367b 4369c 13103b 30745c 4367b 4369c 4367b 4369c",
     "4367b 4369c 4367b 4369c 4535b 4369c 4367b 4369c 4367b 1681c 7055b 2857c 5879b 4369c 4535b",
     "4201c 4535b 4369c 4367b 4369c 4367b 4369c 4367b 4369c 4367b 4369c 4535b 4201c 4535b 4369c",
     "4367b 4369c 4367b 4369c 4367b 3865c 4871b 3865c 5039b 3697c 5039b 3697c 5039b 3865c 136415b"],
    "-21600 -18000 3 2 0 7200 11 1 0 7200"⟩,
  ⟨["America/Indiana/Marengo"], "-20723 -21600 -18000 -14400",
    ["-754902b 301214c 5039b 3697c 5039b 195409c 31895b 48889c 3695b 22513c 3695b 5041c 3695b",
     "5209c 3695b 5041c 3695b 5041c 3695b 5041c 3695b 5041c 3695b 5209c 70055d 4367c 4369d 4367c",
     "4369d 4535c 4369d 4367c 4369d 4367c 11593d 5879c 266785d 5039c"],
    "-18000 -14400 3 2 0 7200 11 1 0 7200"⟩,
  ⟨["America/Indiana/Petersburg"], "-20947 -21600 -18000 -14400",
    ["-754902b 301214c 5039b 3697c 5039b 195409c 31895b 83999c 3529b 5209c 3695b 5041c 3695b 5041c",
     "3695b 5041c 3695b 5041c 3695b 5209c 4367b 4369c 4367b 4369c 4367b 4369c 4367b 4369c 13271b",
     "4369c 4367b 4369c 4367b 4369c 4367b 4369c 4367b 4369c 4535b 4369c 4367b 4369c 4367b 1681c",
     "7055b 2857c 5879b 4369c 4535b 4201c 258719b 3193c 8735d"],
    "-18000 -14400 3 2 0 7200 11 1 0 7200"⟩,
  ⟨["America/Indiana/Tell_City"], "-20823 -21600 -18000 -14400",
    ["-754902b 301214c 5039b 3697c 5039b 195409c 31895b 83999c 3529b 5209c 3695b 5041c 3695b 5041c",
     "3695b 5041c 3695b 5041c 3695b 5209c 4367b 4369c 4367b 4369c 4367b 4369c 30743b 4369c 4367b",
     "4369d 4366c 4369d 4367c 315673b"],
    "-21600 -18000 3 2 0 7200 11 1 0 7200"⟩,
  ⟨["America/Indiana/Vevay"], "-20416 -21600 -18000 -14400",
    ["-754902b 301214c 5039b 3697c 5039b 195409c 31895b 75097c 131543d 4367c 4369d 4367c 4369d",
     "4535c 4369d 4367c 292993d 5039c"],
    "-18000 -14400 3 2 0 7200 11 1 0 7200"⟩,
  ⟨["America/Indiana/Vincennes"], "-21007 -21600 -18000 -14400",
    ["-754902b 301214c 5039b 3697c 5039b 195409c 31895b 5041c 3695b 57625c 3695b 5041c 3695b 5207c",
     "3529b 5209c 3695b 5041c 3695b 5041c 3695b 5041c 3695b 5041c 4535b 4369c 3527b 5209c 4367b",
     "4369c 4367b 4369c 43847d 4367c 4369d 4367c 315673b 3193c 8735d"],
    "-18000 -14400 3 2 0 7200 11 1 0 7200"⟩,
  ⟨["America/Indiana/Winamac"], "-20785 -21600 -18000 -14400",
    ["-754902b 301214c 5039b 3697c 5039b 195409c 31895b 5041c 3695b 5041c 3695b 5041c 3695b 5041c",
     "3695b 5209c 3527b 5209c 3695b 5041c 3695b 5041c 3695b 5041c 3695b 5041c 4535b 4369c 4367b",
     "4369c 3695b 5041c 3695b 5041c 3695b 5041c 3695b 5209c 70055d 4367c 4369d 4367c 315673b 3193d"],
    "-18000 -14400 3 2 0 7200 11 1 0 7200"⟩,
  ⟨["America/Inuvik"], "0 -28800 -25200 -21600",
    ["-149016b 169426c 4367b 4369c 4367b 4369c 4367b 4369c 4367b 4369c 4535b 4201c 4535b 4369c",
     "4367b 4369d 4366c 4369d 4367c 4369d 4367c 4369d 4535c 4201d 4535c 4369d 4367c 4369d 4367c",
     "4369d 4367c 3865d 4871c 3865d 5039c 3697d 5039c 3697d 5039c 3865d 4871c 3865d 4871c 3865d",
     "5039c 3697d 5039c 3697d 5039c 3865d 4871c 3865d 4871c 3865d 4871c 3865d 5039c 3697d 5039c",
     "3697d 5039c 3865d 4871c 3865d 4871c 3865d 5039c 3697d 5039c 3697d 5039c"],
    "-25200 -21600 3 2 0 7200 11 1 0 7200"⟩,
  ⟨["America/Iqaluit America/Pangnirtung"], "0 -14400 -18000 -21600",
    ["-240360b 27750c 233017b 4367c 4369b 4367c 4369b 4367c 4369b 4367c 4369b 4535c 4201b 4535c",
     "4369b 4367c 4369b 4367c 4369b 4367c 4369b 4367c 4369b 4535c 4201b 4535c 4369b 4367c 4369b",
     "4367c 4369b 4367c 3865b 4871c 3865b 5039c 3697b 5039c 3697b 5039c 3865b 4871c 3865b 4871c",
     "3865b 5039c 3697b 5039c 3697b 5039c 3865b 4871c 3865b 4871c 3865b 4871c 3865b 5039d 3698c",
     "8735b 5039c 3865b 4871c 3865b 4871c 3865b 5039c 3697b 5039c 3697b 5039c"],
    "-18000 -14400 3 2 0 7200 11 1 0 7200"⟩,
  ⟨["America/Jamaica Jamaica"], "-18430 -18000 -14400",
    ["-1827687170r 1954374770s 7055b 2857c 5879b 4369c 4535b 4201c 4535b 4369c 4367b 4369c 4367b",
     "4369c 4367b 4369c 4367b 4369c 4535b 4201c 4535b"],
    "-18000"⟩,
  ⟨["America/Juneau"], "54139 -32261 -28800 -25200 -32400",
    ["-3225223727r 1036268788s 1308747739t 31895c 206641d 4367c 4369d 4367c 4369d 4535c 4369d",
     "4367c 4369d 4367c 1681d 7055c 2857d 5879c 4369d 4535c 4201d 4535c 4369d 4367c 4369d 4367c",
     "13105d 4367c 4369d 4535c 4201d 4535e 4370c 4367e 4369c 4367e 4369c 4367e 3865c 4871e 3865c",
     "5039e 3697c 5039e 3697c 5039e 3865c 4871e 3865c 4871e 3865c 5039e 3697c 5039e 3697c 5039e",
     "3865c 4871e 3865c 4871e 3865c 4871e 3865c 5039e 3697c 5039e 3697c 5039e 3865c 4871e 3865c",
     "4871e 3865c 5039e 3697c 5039e 3697c 5039e"],
    "-32400 -28800 3 2 0 7200 11 1 0 7200"⟩,
  ⟨["America/Kentucky/Louisville America/Louisville"], "-20582 -21600 -18000 -14400",
    ["-754902b 301214c 5039b 3697c 5039b 13273c 2951b 172273c 3695b 3217c 31895b 302341k 50459j",
     "34273c 3527b 5209c 3695b 5041c 3695b 5041c 3695b 5041c 3695b 5041c 3695b 5209c 4367b 4369c",
     "4367b 4369c 4367b 4369c 4367b 4369c 4535b 4369c 61319d 4367c 4369d 4367c 4369d 4367c 4369d",
     "4535c 4369d 4367c 4369d 4367c 11593d 5879c 4369d 4535c 4201d 4535c 4369d 4367c 4369d 4367c",
     "4369d 4367c 4369d 4367c 4369d 4535c 4201d 4535c 4369d 4367c 4369d 4367c 4369d 4367c 3865d",
     "4871c 3865d 5039c 3697d 5039c 3697d 5039c 3865d 4871c 3865d 4871c 3865d 5039c 3697d 5039c",
     "3697d 5039c 3865d 4871c 3865d 4871c 3865d 4871c 3865d 5039c 3697d 5039c 3697d 5039c 3865d",
     "4871c 3865d 4871c 3865d 5039c 3697d 5039c 3697d 5039c"],
    "-18000 -14400 3 2 0 7200 11 1 0 7200"⟩,
  ⟨["America/Kentucky/Monticello"], "-20364 -21600 -18000 -14400",
    ["-754902b 301214c 5039b 3697c 5039b 195409c 31895b 197905c 4367b 4369c 4367b 4369c 4367b",
     "4369c 4535b 4369c 4367b 4369c 4367b 1681c 7055b 2857c 5879b 4369c 4535b 4201c 4535b 4369c",
     "4367b 4369c 4367b 4369c 4367b 4369c 4367b 4369c 4535b 4201c 4535b 4369c 4367b 4369c 4367b",
     "4369c 4367b 3865c 4871b 3865c 5039b 3697c 5039b 3697c 5039b 3865c 4871b 3865c 4871b 3865c",
     "5039b 3697c 5039b 3697c 5039b 3865c 4871b 3865c 4871b 3865c 4871b 3865c 5039b 3697c 8735d",
     "5039c 3865d 4871c 3865d 4871c 3865d 5039c 3697d 5039c 3697d 5039c"],
    "-18000 -14400 3 2 0 7200 11 1 0 7200"⟩,
  ⟨["America/La_Paz"], "-16356 -12756 -14400",
    ["-1205954844r 3791c"],
    "-14400"⟩,
  ⟨["America/Lima"], "-18492 -18516 -18000 -14400",
    ["-2524503108r 585964824s 928713084t 2159c 4249d 4367c 4369d 4367c 401257d 2159c 6601d 2159c",
     "24145d 2159c 32905d 2159c"],
    "-18000"⟩,
  ⟨["America/Los_Angeles US/Pacific"], "-28378 -28800 -25200",
    ["-754900b 301214c 5039b 3697c 5039b 195409c 31895b 1290301k 421859j 11616c 3528b 5208c 3696b",
     "5040c 3696b 5040c 3696b 5040c 3696b 5040c 3696b 5208c 3696b 5040c 3696b 5040c 3696b 5040c",
     "3696b 5040c 3696b 5208c 3528b 5208c 4368b 4368c 4368b 4368c 4368b 4368c 4536b 4200c 4536b",
     "4369c 4367b 4369c 4367b 4369c 4367b 4369c 4367b 4369c 4535b 4369c 4367b 4369c 4367b 1681c",
     "7055b 2857c 5879b 4369c 4535b 4201c 4535b 4369c 4367b 4369c 4367b 4369c 4367b 4369c 4367b",
     "4369c 4535b 4201c 4535b 4369c 4367b 4369c 4367b 4369c 4367b 3865c 4871b 3865c 5039b 3697c",
     "5039b 3697c 5039b 3865c 4871b 3865c 4871b 3865c 5039b 3697c 5039b 3697c 5039b 3865c 4871b",
     "3865c 4871b 3865c 4871b 3865c 5039b 3697c 5039b 3697c 5039b 3865c 4871b 3865c 4871b 3865c",
     "5039b 3697c 5039b 3697c 5039b"],
    "-28800 -25200 3 2 0 7200 11 1 0 7200"⟩,
  ⟨["America/Maceio"], "-8572 -10800 -7200",
    ["-1767217028r 560259428s 4332b 4441c 4319b 146113c 3264b 5496c 2903b 5857c 2927b 5857c 2159b",
     "94441c 1991b 8065c 1415b 5881c 2159b 5881c 2879b 5881c 2903b 154921c 3191b 5377c 2687b 6073c",
     "2519b 6049c 2519b 6217c 2855b 49729c 2855b 31921c 3527b 5377c 335b 8569c 3023b"],
    "-10800"⟩,
  ⟨["America/Managua"], "-20708 -20712 -21600 -18000",
    ["-2524500892r 1403395204s 1226189688t 15743c 35785d 2375c 6361d 2375c 101021d 6403c 2377d",
     "35063c 72505d 4199c 5043d 3694c"],
    "-21600"⟩,
  ⟨["America/Manaus Brazil/West"], "-14404 -14400 -10800",
    ["-1767211196r 560257196s 4332b 4441c 4319b 146113c 3264b 5496c 2903b 5857c 2927b 5857c 2159b",
     "94441c 1991b 8065c 1415b 5881c 2159b 5881c 2879b 5881c 2903b 154921c 3191b 5377c 2687b 6073c",
     "2519b 49897c 3023b"],
    "-14400"⟩,
  ⟨["America/Marigot America/Port_of_Spain America/St_Barthelemy"], "-14764 -14400",
    ["-1825098836r"],
    "-14400"⟩,
  ⟨["America/Martinique"], "-14660 -14400 -10800",
    ["-1851537340r 2175378940s 4199b"],
    "-14400"⟩,
  ⟨["America/Matamoros"], "-23400 -21600 -18000",
    ["-420762b 580778c 5039b 65185c 4871b 3865c 4871b 3865c 4871b 3865c 5039b 3697c 5039b 4537c",
     "3527b 4537c 4871b 3865c 4871b 3865c 5039b 3697c 5039b 3697c 5039b 3697c 5039b 3865c 4871b",
     "3865c 4871b"],
    "-21600 -18000 3 2 0 7200 11 1 0 7200"⟩,
  ⟨["America/Mazatlan Mexico/BajaSur"], "-25540 -25200 -21600",
    ["-420761b 47664c 30095b 3985c 3695b 4393c 88199b 472971c 4871b 3865c 4871b 3865c 4871b 3865c",
     "5039b 3697c 5039b 4537c 3527b 4537c 4871b 3865c 4871b 3865c 5039b 3697c 5039b 3697c 5039b",
     "3697c 5039b 3865c 4871b 3865c 4871b 3865c 5039b 3697c 5039b 3697c 5039b 3865c 4871b 3865c",
     "4871b 3865c 4871b 3865c 5039b 3697c 5039b 3697c 5039b 3865c 4871b 3865c 4871b 3865c 5039b",
     "3697c 5039b"],
    "-25200"⟩,
  ⟨["America/Menominee"], "-21027 -21600 -18000",
    ["-2659759773r 1026482973s 5039b 3697c 5039b 195409c 31895b 5041c 3695b 171529c 4535b 21841c",
     "39479b 1681c 7055b 2857c 5879b 4369c 4535b 4201c 4535b 4369c 4367b 4369c 4367b 4369c 4367b",
     "4369c 4367b 4369c 4535b 4201c 4535b 4369c 4367b 4369c 4367b 4369c 4367b 3865c 4871b 3865c",
     "5039b 3697c 5039b 3697c 5039b 3865c 4871b 3865c 4871b 3865c 5039b 3697c 5039b 3697c 5039b",
     "3865c 4871b 3865c 4871b 3865c 4871b 3865c 5039b 3697c 5039b 3697c 5039b 3865c 4871b 3865c",
     "4871b 3865c 5039b 3697c 5039b 3697c 5039b"],
    "-21600 -18000 3 2 0 7200 11 1 0 7200"⟩,
  ⟨["America/Merida"], "-21508 -21600 -18000",
    ["-420762b 525818c 7463b 117721c 4871b 3865c 4871b 3865c 4871b 3865c 5039b 3697c 5039b 4537c",
     "3527b 4537c 4871b 3865c 4871b 3865c 5039b 3697c 5039b 3697c 5039b 3697c 5039b 3865c 4871b",
     "3865c 4871b 3865c 5039b 3697c 5039b 3697c 5039b 3865c 4871b 3865c 4871b 3865c 4871b 3865c",
     "5039b 3697c 5039b 3697c 5039b 3865c 4871b 3865c 4871b 3865c 5039b 3697c 5039b"],
    "-21600"⟩,
  ⟨["America/Metlakatla"], "54822 -31578 -28800 -25200 -32400",
    ["-3225223727r 1036268105s 1308748422t 31895c 206641d 4367c 4369d 4367c 4369d 4535c 4369d",
     "4367c 4369d 4367c 1681d 7055c 2857d 5879c 4369d 4535c 4201d 4535c 4369d 4367c 4369d 4367c",
     "4369d 4367c 4369d 4367c 4369d 4535c 4201d 4535c 280561e 3193c 5711e 3025c 5711e 3025c 7559e"],
    "-32400 -28800 3 2 0 7200 11 1 0 7200"⟩,
  ⟨["America/Mexico_City Mexico/General"], "-23796 -25200 -21600 -18000",
    ["-420761b 47664c 30095b 3985c 3695b 4393c 60023d 3359c 12793d 2711c 23737d 3287c 50713d 4031c",
     "400515d 4871c 3865d 4871c 3865d 4871c 3865d 5039c 3697d 5039c 4537d 3527c 4537d 4871c 3865d",
     "4871c 3865d 5039c 3697d 5039c 3697d 5039c 3697d 5039c 3865d 4871c 3865d 4871c 3865d 5039c",
     "3697d 5039c 3697d 5039c 3865d 4871c 3865d 4871c 3865d 4871c 3865d 5039c 3697d 5039c 3697d",
     "5039c 3865d 4871c 3865d 4871c 3865d 5039c 3697d 5039c"],
    "-21600"⟩,
  ⟨["America/Miquelon"], "-13480 -14400 -10800 -7200",
    ["-1847650520r 2173652120s 60721d 4871c 3865d 5039c 3697d 5039c 3697d 5039c 3865d 4871c 3865d",
     "4871c 3865d 5039c 3697d 5039c 3697d 5039c 3865d 4871c 3865d 4871c 3865d 4871c 3865d 5039c",
     "3697d 5039c 3697d 5039c 3865d 4871c 3865d 4871c 3865d 5039c 3697d 5039c 3697d 5039c"],
    "-10800 -7200 3 2 0 7200 11 1 0 7200"⟩,
  ⟨["America/Moncton"], "-15548 -18000 -14400 -10800",
    ["-2715882052r 584239252s 138769d 4703c 128184d 2183c 6553d 2183c 6553d 2183c 6553d 2183c",
     "6553d 2183c 6553d 2183c 6361d 2855c 5737d 2999c 5401d 3503c 3242d 31895c 5041d 3695c 5041d",
     "3695c 5041d 3695c 5041d 3695c 5209d 3527c 5209d 3695c 5041d 3695c 5041d 3695c 5041d 3695c",
     "5041d 3695c 5209d 3695c 5041d 4367c 4369d 4367c 4369d 4367c 4369d 4535c 4369d 4367c 4369d",
     "4367c 4369d 4367c 4369d 4367c 4369d 4535c 4201d 4535c 4369d 4367c 4369d 4367c 4369d 4367c",
     "4369d 4367c 4369d 4535c 4369d 4367c 13105d 4367c 4369d 4367c 4369d 4535c 4201d 4535c 4369d",
     "4367c 4369d 4367c 4369d 4367c 4369d 4367c 4369d 4535c 4201d 4535c 4369d 4367c 4369d 4367c",
     "4369d 4367c 3865d 4871c 3865d 5039c 3697d 5039c 3697d 5039c 3865d 4871c 3865d 4871c 231781l",
     "5039c 3697d 5039c 3697d 5039c 3865d 4871c 3865d 4871c 3865d 4871c 3865d 5039c 3697d 5039c",
     "3697d 5039c 3865d 4871c 3865d 4871c 3865d 5039c 3697d 5039c 3697d 5039c"],
    "-14400 -10800 3 2 0 7200 11 1 0 7200"⟩,
  ⟨["America/Monterrey"], "-24076 -25200 -21600 -18000",
    ["-420762b 47665c 30095b 3985c 3695b 4393c 490945d 5039c 65185d 4871c 3865d 4871c 3865d 4871c",
     "3865d 5039c 3697d 5039c 4537d 3527c 4537d 4871c 3865d 4871c 3865d 5039c 3697d 5039c 3697d",
     "5039c 3697d 5039c 3865d 4871c 3865d 4871c 3865d 5039c 3697d 5039c 3697d 5039c 3865d 4871c",
     "3865d 4871c 3865d 4871c 3865d 5039c 3697d 5039c 3697d 5039c 3865d 4871c 3865d 4871c 3865d",
     "5039c 3697d 5039c"],
    "-21600"⟩,
  ⟨["America/Montevideo"], "-13491 -14400 -10800 -12600 -9000 -7200 -5400",
    ["-1567455309r 107828109s 4391d 263550k 262050l 263550k 262050l 3985950k 221730l 302430k",
     "221730l 302430k 221730l 302430k 221730l 312510k 211650l 312510k 211650l 272190k 262050l",
     "302430k 221730l 178590k 719970m 129570k 8517630m 251970k 90750n 1175c 44521f 4199c 23377e",
     "270690k 734430n 1199c 16297f 2015c 13105g 80550m 4201c 161310n 2351c 15121f 1847c 6553f",
     "2183c 6889f 1847c 1345f 7727c 67897f 1823c 6889f 2015c 5713f 2855c 5713f 3191c 5713f 3023c",
     "5545f 3191c 101305f 4537c 4705f 3695c 4873f 3863c 5041f 3695c 5041f 3695c 5041f 3863c 4873f",
     "3863c 4873f 3863c 5041f 3695c 5041f 3695c 5041f 3695c"],
    "-10800"⟩,
  ⟨["America/Montreal America/Nipigon America/Thunder_Bay America/Toronto",
    "Canada/Eastern"], "-19052 -18000 -14400",
    ["-2366736148r 734665348s 4703b 223110k 300930j 4539c 3525b 5547c 2951b 5785c 3023b 5713c",
     "3023b 5545c 3359b 5377c 3359b 5377c 3359b 5377c 3527b 5209c 3695b 5041c 3695b 5041c 3695b",
     "5041c 3695b 5209c 3527b 5209c 3695b 5041c 3695b 5041c 3695b 5041c 3695b 5041c 3695b 5041c",
     "3695b 5209c 3527b 5209c 47543b 5041c 3695b 5041c 3695b 5041c 3695b 5041c 5207b 3697c 5039b",
     "3697c 3695b 5041c 3695b 5041c 3695b 5041c 3695b 5041c 3695b 5209c 3695b 5041c 4367b 4369c",
     "4367b 4369c 4367b 4369c 4535b 4369c 4367b 4369c 4367b 4369c 4367b 4369c 4367b 4369c 4535b",
     "4201c 4535b 4369c 4367b 4369c 4367b 4369c 4367b 4369c 4367b 4369c 4535b 4369c 4367b 4369c",
     "4367b 4369c 4367b 4369c 4367b 4369c 4535b 4201c 4535b 4369c 4367b 4369c 4367b 4369c 4367b",
     "4369c 4367b 4369c 4535b 4201c 4535b 4369c 4367b 4369c 4367b 4369c 4367b 3865c 4871b 3865c",
     "5039b 3697c 5039b 3697c 5039b 3865c 4871b 3865c 4871b 3865c 5039b 3697c 5039b 3697c 5039b",
     "3865c 4871b 3865c 4871b 3865c 4871b 3865c 5039b 3697c 5039b 3697c 5039b 3865c 4871b 3865c",
     "4871b 3865c 5039b 3697c 5039b 3697c 5039b"],
    "-18000 -14400 3 2 0 7200 11 1 0 7200"⟩,
  ⟨["America/Montserrat"], "-14932 -14400",
    ["-1846266608r"],
    "-14400"⟩,
  ⟨["America/Nassau"], "-18570 -18000 -14400",
    ["-1825095030r 951954630s 23399b 745c 6215b 162363c 4367b 4369c 4535b 4201c 4535b 4369c 4367b",
     "4369c 4367b 4369c 4367b 4369c 4367b 4369c 4535b 4369c 4367b 4369c 4367b 4369c 4367b 4369c",
     "4367b 4369c 4535b 4201c 4535b 4369c 4367b 4369c 4367b 4369c 4367b 4369c 4367b 4369c 4535b",
     "4201c 4535b 4369c 4367b 4369c 4367b 4369c 4367b 3865c 4871b 3865c 5039b 3697c 5039b 3697c",
     "5039b 3865c 4871b 3865c 4871b 3865c 5039b 3697c 5039b 3697c 5039b 3865c 4871b 3865c 4871b",
     "3865c 4871b 3865c 5039b 3697c 5039b 3697c 5039b 3865c 4871b 3865c 4871b 3865c 5039b 3697c",
     "5039b 3697c 5039b"],
    "-18000 -14400 3 2 0 7200 11 1 0 7200"⟩,
  ⟨["America/New_York US/Eastern"], "-17762 -18000 -14400",
    ["-754903b 301214c 5039b 3697c 5039b 3697c 5207b 4201c 3695b 5209c 3527b 5209c 3695b 5041c",
     "3695b 5041c 3695b 5041c 3695b 5041c 3695b 5209c 3695b 5041c 3695b 5041c 3695b 5041c 3695b",
     "5041c 3695b 5209c 3527b 5209c 3695b 5041c 3695b 5041c 3695b 5041c 3695b 5041c 3695b 5209c",
     "3527b 5209c 3695b 5041c 3695b 3217c 31895b 5041c 3695b 5041c 3695b 5041c 3695b 5041c 3695b",
     "5209c 3527b 5209c 3695b 5041c 3695b 5041c 3695b 5041c 3695b 5041c 4535b 4369c 4367b 4369c",
     "4367b 4369c 4367b 4369c 4367b 4369c 4535b 4369c 4367b 4369c 4367b 4369c 4367b 4369c 4367b",
     "4369c 4535b 4201c 4535b 4369c 4367b 4369c 4367b 4369c 4367b 4369c 4367b 4369c 4535b 4369c",
     "4367b 4369c 4367b 1681c 7055b 2857c 5879b 4369c 4535b 4201c 4535b 4369c 4367b 4369c 4367b",
     "4369c 4367b 4369c 4367b 4369c 4535b 4201c 4535b 4369c 4367b 4369c 4367b 4369c 4367b 3865c",
     "4871b 3865c 5039b 3697c 5039b 3697c 5039b 3865c 4871b 3865c 4871b 3865c 5039b 3697c 5039b",
     "3697c 5039b 3865c 4871b 3865c 4871b 3865c 4871b 3865c 5039b 3697c 5039b 3697c 5039b 3865c",
     "4871b 3865c 4871b 3865c 5039b 3697c 5039b 3697c 5039b"],
    "-18000 -14400 3 2 0 7200 11 1 0 7200"⟩,
  ⟨["America/Nome"], "46702 -39698 -39600 -36000 -32400 -28800",
    ["-3225223727r 1036276225s 1308751102t 31895c 206641d 4367c 4369d 4367c 4369d 4535c 4369d",
     "4367c 4369d 4367c 1681d 7055c 2857d 5879c 4369d 4535c 4201d 4535c 4369d 4367c 4369d 4367c",
     "4369d 4367c 4369d 4367c 4369d 4535c 4201d 4535e 4367f 4367e 4369f 4367e 4369f 4367e 3865f",
     "4871e 3865f 5039e 3697f 5039e 3697f 5039e 3865f 4871e 3865f 4871e 3865f 5039e 3697f 5039e",
     "3697f 5039e 3865f 4871e 3865f 4871e 3865f 4871e 3865f 5039e 3697f 5039e 3697f 5039e 3865f",
     "4871e 3865f 4871e 3865f 5039e 3697f 5039e 3697f 5039e"],
    "-32400 -28800 3 2 0 7200 11 1 0 7200"⟩,
  ⟨["America/Noronha Brazil/DeNoronha"], "-7780 -7200 -3600",
    ["-1767217820r 560256620s 4332b 4441c 4319b 146113c 3264b 5496c 2903b 5857c 2927b 5857c 2159b",
     "94441c 1991b 8065c 1415b 5881c 2159b 5881c 2879b 5881c 2903b 154921c 3191b 5377c 2687b 6073c",
     "2519b 6049c 2519b 6217c 2855b 84505c 3527b 5377c 167b 8737c 3023b"],
    "-7200"⟩,
  ⟨["America/North_Dakota/Beulah"], "-24427 -25200 -21600 -18000",
    ["-754901b 301214c 5039b 3697c 5039b 195409c 31895b 189169c 4367b 4369c 4367b 4369c 4367b",
     "4369c 4367b 4369c 4535b 4369c 4367b 4369c 4367b 1681c 7055b 2857c 5879b 4369c 4535b 4201c",
     "4535b 4369c 4367b 4369c 4367b 4369c 4367b 4369c 4367b 4369c 4535b 4201c 4535b 4369c 4367b",
     "4369c 4367b 4369c 4367b 3865c 4871b 3865c 5039b 3697c 5039b 3697c 5039b 3865c 4871b 3865c",
     "4871b 3865c 5039b 3697c 5039b 3697c 5039b 3865c 4871b 3865c 4871b 3865c 4871b 3865c 5039b",
     "3697c 5039b 3697c 5039b 3865c 4871b 3865c 4871b 3865c 5039b 3697c 5039b 3697c 5039b 3193c",
     "5711b 3025c 5711b 3025c 5711b 3193c 8735d"],
    "-21600 -18000 3 2 0 7200 11 1 0 7200"⟩,
  ⟨["America/North_Dakota/Center"], "-24312 -25200 -21600 -18000",
    ["-754901b 301214c 5039b 3697c 5039b 195409c 31895b 189169c 4367b 4369c 4367b 4369c 4367b",
     "4369c 4367b 4369c 4535b 4369c 4367b 4369c 4367b 1681c 7055b 2857c 5879b 4369c 4535b 4201c",
     "4535b 4369c 4367b 4369c 4367b 4369c 4367b 4369c 4367b 4369c 4535b 4201c 4535b 4369c 4367b",
     "4369c 4367b 4369c 4367b 3865c 4871b 3865c 5039b 3697c 5039b 3697c 5039b 3865c 4871b 3865c",
     "8735d 5039c 3697d 5039c 3697d 5039c 3865d 4871c 3865d 4871c 3865d 4871c 3865d 5039c 3697d",
     "5039c 3697d 5039c 3865d 4871c 3865d 4871c 3865d 5039c 3697d 5039c 3697d 5039c"],
    "-21600 -18000 3 2 0 7200 11 1 0 7200"⟩,
  ⟨["America/North_Dakota/New_Salem"], "-24339 -25200 -21600 -18000",
    ["-754901b 301214c 5039b 3697c 5039b 195409c 31895b 189169c 4367b 4369c 4367b 4369c 4367b",
     "4369c 4367b 4369c 4535b 4369c 4367b 4369c 4367b 1681c 7055b 2857c 5879b 4369c 4535b 4201c",
     "4535b 4369c 4367b 4369c 4367b 4369c 4367b 4369c 4367b 4369c 4535b 4201c 4535b 4369c 4367b",
     "4369c 4367b 4369c 4367b 3865c 4871b 3865c 5039b 3697c 5039b 3697c 5039b 3865c 4871b 3865c",
     "4871b 3865c 5039b 3697c 5039b 3697c 5039b 3865c 4871b 3865c 4871b 3865c 4871b 3865c 5039b",
     "3697c 5039b 3697c 5039b 3865c 4871b 3865c 8735d 5039c 3697d 5039c 3697d 5039c"],
    "-21600 -18000 3 2 0 7200 11 1 0 7200"⟩,
  ⟨["America/Ojinaga"], "-25060 -25200 -21600 -18000",
    ["-420761b 47664c 30095b 3985c 3695b 4393c 561169d 4871c 3865d 4871c 8737b 3865c 5039b 3697c",
     "5039b 4537c 3527b 4537c 4871b 3865c 4871b 3865c 5039b 3697c 5039b 3697c 5039b 3697c 5039b",
     "3865c 4871b 3865c 4871b 3361c 5711b 3025c 5711b 3025c 5711b 3025c 5711b 3025c 5711b 3025c",
     "5711b 3193c 5711b 3025c 5711b 3025c 5711b 3025c 5711b 3025c 5711b 3193c 5711b 3025c 8735d"],
    "-21600 -18000 3 2 0 7200 11 1 0 7200"⟩,
  ⟨["America/Panama"], "-19088 -19176 -18000",
    ["-2524502512r 577584088s"],
    "-18000"⟩,
  ⟨["America/Paramaribo"], "-13240 -13252 -13236 -12600 -10800",
    ["-1861906760r 757382412s 339206384t 1230767364u"],
    "-10800"⟩,
  ⟨["America/Phoenix US/Arizona"], "-26898 -25200 -21600",
    ["-754901b 301214c 5039b 3697c 5039b 195409c 994861j 2185c 4391b 11874419k 4367b"],
    "-25200"⟩,
  ⟨["America/Port-au-Prince"], "-17360 -17340 -18000 -14400",
    ["-2524504240r 854020780s 34861691l 4199c 4369d 4367c 4369d 4367c 4369d 4367c 4369d 4367c",
     "3866d 5040c 3696d 5040c 3696d 5040c 3864d 4872c 3864d 4872c 3864d 5040c 3696d 5040c 3696d",
     "5040c 3864d 4872c 3864d 4872c 65183d 5039c 3697d 5039c 47043d 5711c 3025d 5711c 3025d 5711c",
     "3025d 5711c 11929d"],
    "-18000 -14400 3 2 0 7200 11 1 0 7200"⟩,
  ⟨["America/Porto_Acre America/Rio_Branco Brazil/Acre"], "-16272 -18000 -14400",
    ["-1767209328r 560258928s 4332b 4441c 4319b 146113c 3264b 5496c 2903b 5857c 2927b 5857c 2159b",
     "94441c 1991b 8065c 1415b 5881c 2159b 5881c 2879b 5881c 2903b 154921c 3191b 5377c 2687b 6073c",
     "2519b 178633c 47159b"],
    "-18000"⟩,
  ⟨["America/Porto_Velho"], "-15336 -14400 -10800",
    ["-1767210264r 560256264s 4332b 4441c 4319b 146113c 3264b 5496c 2903b 5857c 2927b 5857c 2159b",
     "94441c 1991b 8065c 1415b 5881c 2159b 5881c 2879b 5881c 2903b 154921c 3191b 5377c 2687b 6073c",
     "2519b"],
    "-14400"⟩,
  ⟨["America/Puerto_Rico"], "-15865 -14400 -10800",
    ["-2233035335r 1359977735s 29905b"],
    "-14400"⟩,
  ⟨["America/Punta_Arenas"], "-17020 -16965 -18000 -14400 -10800",
    ["-2524504580r 631843145s 204250635r 69205365t 25399035r 257820165t 18400635s 3673d 5087c",
     "3673d 5087c 3673d 5087c 3673d 5111c 3673d 85439c 1465d 40895c 1224d 188064e 3527d 5713e",
     "3023d 4705e 3695d 5041e 3695d 5209e 3527d 4873e 3863d 5209e 3527d 5209e 3695d 5041e 3695d",
     "5041e 3695d 5209e 3527d 5209e 3527d 5209e 3695d 5041e 3695d 5041e 3695d 5041e 3695d 5209e",
     "3527d 5209e 3527d 5209e 4367d 4369e 3695d 5041e 3695d 5209e 3527d 4537e 4199d 5209e 3695d",
     "5041e 3695d 5041e 3695d 5041e 3695d 5209e 3527d 5209e 4031d 4705e 3695d 4705e 4535d 4537e",
     "3695d 5209e 3527d 5209e 3527d 5209e 3527d 5209e 3695d 5041e 3695d 5041e 3695d 5209e 3527d",
     "5209e 4031d 4705e 3695d 5041e 4199d 4537e 5039d 2521e 6047d 3025e 5711d 3193e 5543d 3193e",
     "14783d 2185e"],
    "-10800"⟩,
  ⟨["America/Rainy_River America/Winnipeg Canada/Central"], "-23316 -21600 -18000",
    ["-2602258284r 907889484s 3527b 13779c 4703b 162625c 3191b 38329c 31895b 5377c 3695b 4705c",
     "3695b 5041c 3695b 5041c 3695b 5233c 3647b 5065c 3695b 5041c 3695b 5041c 3695b 5041c 3695b",
     "5041c 3695b 5209c 3695b 5041c 3695b 5041c 3695b 5041c 4367b 4369c 3695b 22681c 3527b 22681c",
     "4536b 4368c 4368b 4368c 4368b 4368c 4368b 4368c 4368b 4368c 4536b 4368c 4368b 4368c 4368b",
     "4368c 4368b 4368c 4368b 4368c 4536b 4200c 4536b 4368c 4368b 4368c 4368b 4368c 4368b 4368c",
     "4368b 4368c 4536b 4200c 4536b 4368c 4368b 4368c 4368b 4368c 4368b 3864c 4872b 3864c 5040b",
     "3696c 5040b 3696c 5040b 3864c 4872b 3864c 4872b 3864c 5040b 3696c 5040b 3696c 5040b 3864c",
     "4872b 3864c 4872b 3864c 4872b 3864c 5040b 3696c 5040b 3696c 5040b 3864c 4872b 3864c 4872b",
     "3864c 5040b 3696c 5040b 3696c 5039b"],
    "-21600 -18000 3 2 0 7200 11 1 0 7200"⟩,
  ⟨["America/Rankin_Inlet"], "0 -21600 -18000",
    ["-113952b 134360c 4367b 4369c 4367b 4369c 4367b 4369c 4367b 4369c 4535b 4201c 4535b 4369c",
     "4367b 4369c 4367b 4369c 4367b 4369c 4367b 4369c 4535b 4201c 4535b 4369c 4367b 4369c 4367b",
     "4369c 4367b 3865c 4871b 3865c 5039b 3697c 5039b 3697c 5039b 3865c 4871b 3865c 4871b 3865c",
     "5039b 3697c 5039b 3697c 5039b 3865c 4871b 3865c 4871b 3865c 4871b 3865c 5039b 3697c 13775b",
     "3865c 4871b 3865c 4871b 3865c 5039b 3697c 5039b 3697c 5039b"],
    "-21600 -18000 3 2 0 7200 11 1 0 7200"⟩,
  ⟨["America/Recife"], "-8376 -10800 -7200",
    ["-1767217224r 560259624s 4332b 4441c 4319b 146113c 3264b 5496c 2903b 5857c 2927b 5857c 2159b",
     "94441c 1991b 8065c 1415b 5881c 2159b 5881c 2879b 5881c 2903b 154921c 3191b 5377c 2687b 6073c",
     "2519b 6049c 2519b 6217c 2855b 84505c 3527b 5377c 167b 8737c 3023b"],
    "-10800"⟩,
  ⟨["America/Regina Canada/Saskatchewan"], "-25116 -25200 -21600",
    ["-2030202084r 398138484s 4703b 100967c 3695b 5041c 3695b 5041c 3695b 5209c 3527b 5209c 3695b",
     "22009c 4367b 4369c 4199b 4537c 4367b 4537c 4367b 4369c 4367b 2883c 31895b 4705c 4367b 4705c",
     "3695b 5041c 3695b 5041c 3695b 5209c 3527b 5209c 3695b 5041c 3695b 5041c 3695b 5041c 3695b",
     "5041c 3695b 5209c 3695b 5041c 3695b 13777c 4367b 4369c"],
    "-21600"⟩,
  ⟨["America/Resolute"], "0 -21600 -18000",
    ["-195816b 216224c 4367b 4369c 4367b 4369c 4367b 4369c 4367b 4369c 4535b 4201c 4535b 4369c",
     "4367b 4369c 4367b 4369c 4367b 4369c 4367b 4369c 4535b 4201c 4535b 4369c 4367b 4369c 4367b",
     "4369c 4367b 3865c 4871b 3865c 5039b 3697c 5039b 3697c 5039b 3865c 4871b 3865c 4871b 3865c",
     "5039b 3697c 5039b 3697c 5039b 3865c 4871b 3865c 4871b 3865c 4871b 3865c 5039b 3697c 13775b",
     "3865c 4871b 3865c 4871b 3865c 5039b 3697c 5039b 3697c 13943b"],
    "-21600 -18000 3 2 0 7200 11 1 0 7200"⟩,
  ⟨["America/Santarem"], "-13128 -14400 -10800",
    ["-1767212472r 560258472s 4332b 4441c 4319b 146113c 3264b 5496c 2903b 5857c 2927b 5857c 2159b",
     "94441c 1991b 8065c 1415b 5881c 2159b 5881c 2879b 5881c 2903b 154921c 3191b 5377c 2687b 6073c",
     "2519b 178633c"],
    "-10800"⟩,
  ⟨["America/Santiago Chile/Continental"], "-16965 -18000 -14400 -10800",
    ["-1892661435r 204250635q 69205365s 25399035q 257820165s 18400635r 3673c 5087b 3673c 5087b",
     "3673c 5087b 3673c 5111b 3673c 85439b 1465c 34655d 1079c 5161b 1224c 188064d 3527c 5713d",
     "3023c 4705d 3695c 5041d 3695c 5209d 3527c 4873d 3863c 5209d 3527c 5209d 3695c 5041d 3695c",
     "5041d 3695c 5209d 3527c 5209d 3527c 5209d 3695c 5041d 3695c 5041d 3695c 5041d 3695c 5209d",
     "3527c 5209d 3527c 5209d 4367c 4369d 3695c 5041d 3695c 5209d 3527c 4537d 4199c 5209d 3695c",
     "5041d 3695c 5041d 3695c 5041d 3695c 5209d 3527c 5209d 4031c 4705d 3695c 4705d 4535c 4537d",
     "3695c 5209d 3527c 5209d 3527c 5209d 3527c 5209d 3695c 5041d 3695c 5041d 3695c 5209d 3527c",
     "5209d 4031c 4705d 3695c 5041d 4199c 4537d 5039c 2521d 6047c 3025d 5711c 3193d 5543c 3193d",
     "14783c 2185d 6551c 2185d 6551c 2185d 5711c 3697d 5039c 3697d 5039c 3697d 5039c 3865d"],
    "-14400 -10800 9 1 6 86400 4 1 6 86400"⟩,
  ⟨["America/Santo_Domingo"], "-16776 -16800 -18000 -14400 -16200",
    ["-2524504824r 1364731224s 17660900l 2903c 23305e 169890k 354270m 125250k 408990m 118050k",
     "406110m 120930k 403230m 122370k 401790l 227977c 840d"],
    "-14400"⟩,
  ⟨["America/Sao_Paulo Brazil/East"], "-11188 -10800 -7200",
    ["-1767214412r 560256812s 4332b 4441c 4319b 146113c 3264b 5496c 2903b 5857c 2927b 5857c 2159b",
     "93313c 3119b 8065c 1415b 5881c 2159b 5881c 2879b 5881c 2903b 154921c 3191b 5377c 2687b 6073c",
     "2519b 6049c 2519b 6217c 2855b 6049c 2855b 5881c 2687b 6217c 2351b 6217c 3023b 5713c 3023b",
     "5713c 2855b 5713c 3191b 5569c 3503b 5377c 3191b 5377c 3527b 5377c 3191b 5713c 3023b 6217c",
     "2519b 5881c 2855b 6265c 2639b 5713c 3023b 6217c 2687b 5545c 3023b 5881c 2855b 5881c 3023b",
     "5713c 3023b 5713c 3191b 5713c 2855b 5881c 2855b 5881c 3023b 5713c 3023b 5713c 3023b 5713c",
     "3023b 6217c 2519b"],
    "-10800"⟩,
  ⟨["America/Scoresbysund"], "-5272 -7200 -3600 0",
    ["-1686090728r 2009932328s 4200b 4366d 4367c 4368d 4368c 4368d 4368c 4368d 4536c 4368d 4368c",
     "4368d 4368c 4368d 4368c 4368d 4368c 4368d 4368c 4368d 4536c 4368d 4368c 4368d 4368c 4368d",
     "4368c 4368d 4368c 4368d 4368c 4536d 5040c 3696d 5040c 3696d 5040c 3696d 5208c 3528d 5208c",
     "3528d 5208c 3696d 5040c 3696d 5040c 3696d 5208c 3528d 5208c 3528d 5208c 3528d 5208c 3696d",
     "5040c 3696d 5040c 3696d 5208c 3528d 5208c 3528d 5208c 3696d 5040c 3696d 5040c 3696d 5040c",
     "3696d 5208c 3528d 5208c 3528d 5208c 3696d 5040c 3696d 5040c 3696d 5208c 3528d 5208c 3528d",
     "5208c 8736b"],
    "-7200 -3600 3 5 0 -3600 10 5 0 0"⟩,
  ⟨["America/Sitka"], "53927 -32473 -28800 -25200 -32400",
    ["-3225223727r 17271150k 1308747527t 31895c 206641d 4367c 4369d 4367c 4369d 4535c 4369d 4367c",
     "4369d 4367c 1681d 7055c 2857d 5879c 4369d 4535c 4201d 4535c 4369d 4367c 4369d 4367c 4369d",
     "4367c 4369d 4367c 4369d 4535c 4201d 4535e 4370c 4367e 4369c 4367e 4369c 4367e 3865c 4871e",
     "3865c 5039e 3697c 5039e 3697c 5039e 3865c 4871e 3865c 4871e 3865c 5039e 3697c 5039e 3697c",
     "5039e 3865c 4871e 3865c 4871e 3865c 4871e 3865c 5039e 3697c 5039e 3697c 5039e 3865c 4871e",
     "3865c 4871e 3865c 5039e 3697c 5039e 3697c 5039e"],
    "-32400 -28800 3 2 0 7200 11 1 0 7200"⟩,
  ⟨["America/St_Johns Canada/Newfoundland"], "-12652 -9052 -12600 -9000 -5400",
    ["-1664130548r 3887a 5017b 4703a 4582b 2375a 6337b 4367a 4369b 4367a 4537b 4199a 4537b 4199a",
     "4537b 4199a 4537b 4199a 4537b 4367a 4369b 4367a 4537b 4199a 4537b 4199a 4537b 4199a 4537b",
     "4199a 4537b 4367a 4537b 4199a 4537b 4199a 3650c 3193148t 4199c 4706d 3527c 5209d 3527c 5209d",
     "3527c 5377d 3359c 5377d 3527c 5209d 3527c 5209d 29713c 5377d 3527c 5209d 3527c 5209d 3527c",
     "5209d 3527c 5377d 3527c 4873d 3695c 5041d 3695c 5041d 3695c 5041d 3695c 5041d 3695c 5209d",
     "3695c 5041d 3695c 5041d 3695c 5041d 3695c 5041d 4535c 4369d 4367c 4369d 4367c 4369d 4367c",
     "4369d 4367c 4369d 4535c 4201d 4535c 4369d 4367c 4369d 4367c 4369d 4367c 4369d 4367c 4369d",
     "4535c 4369d 4367c 4369d 4367c 4369d 4367c 4369d 4367c 4369d 4535c 4201d 4535c 4369d 4367c",
     "4369d 4367c 4369d 4367c 4369d 4367c 4369d 4535c 4201d 4535c 4369d 4367c 4369d 4367c 4369d",
     "4367c 231781l 4871c 3865e 5038c 3698d 5039c 3697d 5039c 3865d 4871c 3865d 4871c 3865d 5039c",
     "3697d 5039c 3697d 5039c 3865d 4871c 3865d 4871c 3865d 4871c 3865d 5039c 3697d 5039c 3697d",
     "5039c 3865d 4871c 3865d 4871c 3865d 5039c 3697d 5039c 3697d 5039c 3193d 5711c 3025d 5711c",
     "3025d 5711c 3193d 5711c 3025d"],
    "-12600 -9000 3 2 0 7200 11 1 0 7200"⟩,
  ⟨["America/St_Kitts"], "-15052 -14400",
    ["-1825098548r"],
    "-14400"⟩,
  ⟨["America/St_Lucia"], "-14640 -14400",
    ["-30506156j"],
    "-14400"⟩,
  ⟨["America/St_Thomas America/Virgin"], "-15584 -14400",
    ["-1846266016r"],
    "-14400"⟩,
  ⟨["America/St_Vincent"], "-14696 -14400",
    ["-1830369304r"],
    "-14400"⟩,
  ⟨["America/Swift_Current"], "-25880 -25200 -21600",
    ["-2030201320r 398137720s 4703b 204145c 31895b 5041c 4031b 4705c 3695b 5041c 3695b 5041c 3695b",
     "66529c 4367b 13105c 4367b 4369c 3695b 5209c 3527b 92905c"],
    "-21600"⟩,
  ⟨["America/Tegucigalpa"], "-20932 -21600 -18000",
    ["-1538503868r 2085523868s 3527b 5209c 3527b 154393c 2207b"],
    "-21600"⟩,
  ⟨["America/Thule"], "-16508 -14400 -10800",
    ["-1686079492r 2356478692s 4367b 4369c 4367b 4537c 5039b 3697c 5039b 3697c 5039b 3865c 4871b",
     "3865c 4871b 3865c 4871b 3865c 5039b 3697c 5039b 3697c 5039b 3865c 4871b 3865c 4871b 3865c",
     "5039b 3697c 5039b 3697c 5039b"],
    "-14400 -10800 3 2 0 7200 11 1 0 7200"⟩,
  ⟨["America/Tortola"], "-15508 -14400",
    ["-1846266092r"],
    "-14400"⟩,
  ⟨["America/Vancouver Canada/Pacific"], "-29548 -28800 -25200",
    ["-2713880852r 1081820852s 4703b 204145c 31895b 5041c 3695b 5041c 3695b 5041c 3695b 5041c",
     "3695b 5209c 3527b 5209c 3695b 5041c 3695b 5041c 3695b 5041c 3695b 5041c 3695b 5209c 3695b",
     "5041c 3695b 5041c 3695b 5041c 3695b 5041c 3695b 5209c 3527b 5209c 4367b 4369c 4367b 4369c",
     "4367b 4369c 4535b 4201c 4535b 4369c 4367b 4369c 4367b 4369c 4367b 4369c 4367b 4369c 4535b",
     "4369c 4367b 4369c 4367b 4369c 4367b 4369c 4367b 4369c 4535b 4201c 4535b 4369c 4367b 4369c",
     "4367b 4369c 4367b 4369c 4367b 4369c 4535b 4201c 4535b 4369c 4367b 4369c 4367b 4369c 4367b",
     "3865c 4871b 3865c 5039b 3697c 5039b 3697c 5039b 3865c 4871b 3865c 4871b 3865c 5039b 3697c",
     "5039b 3697c 5039b 3865c 4871b 3865c 4871b 3865c 4871b 3865c 5039b 3697c 5039b 3697c 5039b",
     "3865c 4871b 3865c 4871b 3865c 5039b 3697c 5039b 3697c 5039b"],
    "-28800 -25200 3 2 0 7200 11 1 0 7200"⟩,
  ⟨["America/Whitehorse Canada/Yukon"], "-32412 -32400 -28800 -25200",
    ["-2188997988r 556941588s 4703b 5041c 3837b 195267c 31895b 171527d 4536b 2856c 124153d 4367c",
     "4369d 4367c 4369d 4535c 4201d 4535c 4369d 4367c 4369d 4367c 4369d 4367c 3865d 4871c 3865d",
     "5039c 3697d 5039c 3697d 5039c 3865d 4871c 3865d 4871c 3865d 5039c 3697d 5039c 3697d 5039c",
     "3865d 4871c 3865d 4871c 3865d 4871c 3865d 5039c 3697d 5039c 3697d 5039c 3865d 4871c 3865d",
     "4871c 3865d 5039c 3697d 5039c 3697d 5039c 3193d 5711c 3025d 5711c 3025d 5711c 3193d 5711c",
     "3025d 5711c 3025d 5711c 3025d 5711c 3025d 5711c 3025d 5711c 3193d 5711c 3025d 5711c 3025d",
     "5711c 3025d 5711c 3025d"],
    "-25200"⟩,
  ⟨["America/Yakutat"], "52865 -33535 -32400 -28800",
    ["-3225223727r 1036270062s 1308750065t 31895c 206641d 4367c 4369d 4367c 4369d 4535c 4369d",
     "4367c 4369d 4367c 1681d 7055c 2857d 5879c 4369d 4535c 4201d 4535c 4369d 4367c 4369d 4367c",
     "4369d 4367c 4369d 4367c 4369d 4535c 4201d 4535c 4369d 4367c 4369d 4367c 4369d 4367c 3865d",
     "4871c 3865d 5039c 3697d 5039c 3697d 5039c 3865d 4871c 3865d 4871c 3865d 5039c 3697d 5039c",
     "3697d 5039c 3865d 4871c 3865d 4871c 3865d 4871c 3865d 5039c 3697d 5039c 3697d 5039c 3865d",
     "4871c 3865d 4871c 3865d 5039c 3697d 5039c 3697d 5039c"],
    "-32400 -28800 3 2 0 7200 11 1 0 7200"⟩,
  ⟨["Antarctica/Casey"], "0 28800 39600",
    ["-8760b 357594c 3309b 14451c 2807b 40895c 12121b 5043c 3860b 4827c 3741b 302401k 231659j",
     "292501k 231659j 292501k 227519j"],
    "28800"⟩,
  ⟨["Antarctica/Davis"], "0 25200 18000",
    ["-113664b 68369a 37279b 356851c 3457b 14303c 2809b"],
    "25200"⟩,
  ⟨["Antarctica/DumontDUrville"], "0 36000",
    ["-201624b 44126a 42082b"],
    "36000"⟩,
  ⟨["Antarctica/Macquarie"], "0 36000 39600",
    ["-615072b 148264c 4200b 17686a 254074b 171088c 4368b 5040c 3192b 5544c 3192b 5544c 3360b",
     "5544c 2856b 5880c 3024b 5712c 3024b 5712c 3024b 5712c 3192b 5712c 3024b 5712c 3024b 5712c",
     "3024b 5712c 3024b 5712c 3024b 5712c 3696b 5208c 3528b 5208c 3024b 5712c 3024b 5712c 3024b",
     "5544c 3528b 5376c 3528b 5376c 3360b 5376c 3360b 5376c 3696b 4536c 4200b 4536c 4200b 4536c",
     "4200b 4536c 4200b 4536c 4368b 4536c 4200b 4536c 4200b 4536c 4200b 4536c 4200b 3696c 5040b",
     "4704c 4200b 4536c 4200b 4536c 4200b 4536c 4200b 4536c 4368b 4368c 4200b 4704c 4368b 4368c",
     "4368b 4368c 13104b"],
    "36000 39600 10 1 0 7200 4 1 0 10800"⟩,
  ⟨["Antarctica/Mawson"], "0 21600 18000",
    ["-139224b 488060c"],
    "18000"⟩,
  ⟨["Antarctica/McMurdo Antarctica/South_Pole"], "0 43200 46800",
    ["-122736b 165134c 2688b 5880c 3192b 5712c 3024b 5712c 3024b 5712c 3024b 5712c 3024b 5712c",
     "3024b 5712c 3192b 5712c 3024b 5712c 3024b 5712c 3024b 5712c 3024b 5712c 3024b 5712c 3192b",
     "5712c 3024b 5208c 3864b 4872c 3864b 4872c 3864b 4872c 4032b 4704c 4032b 4704c 4032b 4704c",
     "4032b 4872c 3864b 4872c 3864b 4872c 4032b 4704c 4032b 4704c 4032b 4872c 3864b 4872c 3864b",
     "4872c 4032b 4704c 4032b 4704c 4032b 4704c 4032b"],
    "43200 46800 9 5 0 7200 4 1 0 10800"⟩,
  ⟨["Antarctica/Palmer"], "0 -10800 -14400 -7200",
    ["-43824b 1419c 5473b 3287c 5473b 4055c 4369b 4535c 4369b 4367c 4369b 37703d 2351b 70129c",
     "3889b 3695c 5041b 3695c 5209b 3527c 5209b 3527c 5209b 4367c 4369b 3695c 5041b 3695c 5209b",
     "3527c 4537b 4199c 5209b 3695c 5041b 3695c 5041b 3695c 5041b 3695c 5209b 3527c 5209b 4031c",
     "4705b 3695c 4705b 4535c 4537b 3695c 5209b 3527c 5209b 3527c 5209b 3527c 5209b 3695c 5041b",
     "3695c 5041b 3695c 5209b 3527c 5209b 4031c 4705b 3695c 5041b 4199c 4537b 5039c 2521b 6047c",
     "3025b 5711c 3193b 5543c 3193b 14783c 2185b"],
    "-10800"⟩,
  ⟨["Antarctica/Rothera"], "0 -10800",
    ["60624b"],
    "-10800"⟩,
  ⟨["Antarctica/Syowa"], "0 10800",
    ["-113280b"],
    "10800"⟩,
  ⟨["Antarctica/Troll"], "0 7200",
    ["308857b"],
    "0 7200 3 5 0 3600 10 5 0 10800"⟩,
  ⟨["Antarctica/Vostok"], "0 25200 18000",
    ["-105576b 316697a 6559b 255331c"],
    "18000"⟩,
  ⟨["Arctic/Longyearbyen Atlantic/Jan_Mayen Europe/Oslo"], "2580 3600 7200",
    ["-39445963j 11247883k 3142b 209184c 19515b 3528c 4536b 4368c 4368b 4368c 4368b 117912c 4536b",
     "4368c 4368b 4368c 4368b 4368c 4368b 4368c 4368b 4368c 4536b 5208c 3528b 127512c 4200b 4368c",
     "4368b 4368c 4368b 4368c 4368b 4368c 4536b 4368c 4368b 4368c 4368b 4368c 4368b 4368c 4368b",
     "4368c 4368b 4368c 4536b 4368c 4368b 4368c 4368b 4368c 4368b 4368c 4368b 4368c 4368b"],
    "3600 7200 3 5 0 7200 10 5 0 10800"⟩,
  ⟨["Asia/Aden"], "10794 10800",
    ["-631162794r"],
    "10800"⟩,
  ⟨["Asia/Almaty"], "18468 18000 21600 25200",
    ["-1441170468r 193622868s 445127d 4391c 4369d 4391c 4369d 4391c 4393d 4370c 4368d 4368c 4368d",
     "4368c 4368d 4368c 4368d 4368c 4368d 4368c 4368d 4536c 8737b 2688c 1679d 4368c 4368d 4368c",
     "4368d 4368c 4368d 4368c 4536d 5040c 3696d 5040c 3696d 5040c 3696d 5208c 3528d 5208c 3528d",
     "5208c 3696d 5040c 3696d 5040c 3696d 5208c 169462b"],
    "18000"⟩,
  ⟨["Asia/Amman"], "8624 7200 10800",
    ["-1230776624r 1338942224s 2807b 5089c 3671b 5089c 3671b 5113c 4415b 4345c 3671b 5065c 3671b",
     "57001c 4391b 4441c 4367b 4369c 4367b 4369c 4535b 5113c 3623b 4873c 3863b 4657c 3911b 4705c",
     "4199b 4369c 4367b 4369c 4031b 4873c 3864b 4872c 4032b 4704c 4032b 4704c 4032b 6864c 2040b",
     "4512c 4392b 4344c 4392b 4368c 4368b 4368c 5040b 3696c 4872b 4032c 4368b 4368c 5040b 3696c",
     "5040b 3696c 5208b 3528c 5208b 3528c 5208b 3696c 5040b 3696c 15119b 2353c 5208b 3528c 5208b",
     "3696c 5040b 3696c 5040b 3696c 5040b 3696c 5040b 3696c 5208b 3528c 5208b 2856c"],
    "10800"⟩,
  ⟨["Asia/Anadyr"], "42596 43200 46800 50400 39600",
    ["-1441194596r 193621796s 445127d 4391c 8761b 4369c 4391b 4393c 4370b 4368c 4368b 4368c 4368b",
     "4368c 4368b 4368c 4368b 4368c 4368b 4368c 4536b 8737e 2688b 1679c 4368b 4368c 4368b 4368c",
     "4368b 4368c 4368b 4536c 5040b 3696c 5040b 3696c 5040b 3696c 5208b 3528c 5208b 3528c 5208b",
     "3696c 5040b 3696c 5040b 3696c 5208b 3528c 5208b 3528c 5208b 3528c 5208b 3696c 5040b 3696c",
     "5040b 8905e 3528b"],
    "43200"⟩,
  ⟨["Asia/Aqtau"], "12064 14400 18000 21600",
    ["-1441164064r 193620064s 449519d 8759c 4369d 4391c 4393d 4370c 4368d 4368c 4368d 4368c 4368d",
     "4368c 4368d 4368c 4368d 4368c 4368d 4536c 8737b 2688c 1679d 4368c 4368d 4368c 4368d 4368b",
     "4369c 4368b 4536c 5040b 3696c 5040b 3696c 5040b 3696c 5208b 3528c 5208b 3528c 5208b 3696c",
     "5040b 3696c 5040b 3696c"],
    "18000"⟩,
  ⟨["Asia/Aqtobe"], "13720 14400 18000 21600",
    ["-1441165720r 193621720s 445127d 13151c 4369d 4391c 4393d 4370c 4368d 4368c 4368d 4368c 4368d",
     "4368c 4368d 4368c 4368d 4368c 4368d 4536c 8737b 2688c 1679d 4368c 4368d 4368c 4368d 4368c",
     "4368d 4368c 4536d 5040c 3696d 5040c 3696d 5040c 3696d 5208c 3528d 5208c 3528d 5208c 3696d",
     "5040c 3696d 5040c 3696d 5208c"],
    "18000"⟩,
  ⟨["Asia/Ashgabat Asia/Ashkhabad"], "14012 14400 18000 21600",
    ["-1441166012r 193622012s 445127d 4391c 4369d 4391c 4369d 4391c 4393d 4370c 4368d 4368c 4368d",
     "4368c 4368d 4368c 4368d 4368c 4368d 4368c 4368d 4536c 8737b 2688c"],
    "18000"⟩,
  ⟨["Asia/Atyrau"], "12464 10800 18000 21600 14400",
    ["-1441164464r 193624064s 449518d 8759c 4369d 4391c 4393d 4370c 4368d 4368c 4368d 4368c 4368d",
     "4368c 4368d 4368c 4368d 4368c 4368d 4536c 8737e 2688c 1679d 4368c 4368d 4368c 4368d 4368c",
     "4368d 4368c 4536d 5040c 3696d 5040c 3696d 5040c 8905e 3528c 5208e 3528c 5208e 3696c 5040e",
     "3696c 5040e 3696c"],
    "18000"⟩,
  ⟨["Asia/Baghdad"], "10660 10656 10800 14400",
    ["-2524532260r 883526404s 2030054256t 3671c 4345d 4415c 4393d 4391c 4369d 4345c 4368d 4368c",
     "4368d 4368c 4368d 4368c 4368d 4368c 4368d 4536c 4394d 4392c 4392d 4392c 4368d 4392c 4368d",
     "4392c 4368d 4392c 4392d 4392c 4368d 4392c 4368d 4392c 4368d 4392c 4392d 4392c 4368d 4392c",
     "4368d 4392c 4368d 4392c 4392d 4392c 4368d 4392c 4368d 4392c 4368d 4392c"],
    "10800"⟩,
  ⟨["Asia/Bahrain"], "12140 12600 14400 10800",
    ["-897880940r 77327540s 14945730l"],
    "10800"⟩,
  ⟨["Asia/Baku"], "11964 10800 14400 18000",
    ["-1441163964r 1036023564s 211127d 4391c 4369d 4391c 4369d 4391c 4393d 4370c 4368d 4368c 4368d",
     "4368c 4368d 4368c 4368d 4368c 4368d 4368c 4368d 4536c 8737b 4368c 35114d 5040c 3695d 5040c",
     "3696d 5040c 3696d 5208c 3528d 5208c 3528d 5208c 3696d 5040c 3696d 5040c 3696d 5208c 3528d",
     "5208c 3528d 5208c 3528d 5208c 3696d 5040c 3696d 5040c 3696d 5208c 3528d 5208c 3528d 5208c",
     "3696d 5040c 3696d 5040c 3696d 5040c"],
    "14400"⟩,
  ⟨["Asia/Bangkok"], "24124 25200",
    ["-1570084924r"],
    "25200"⟩,
  ⟨["Asia/Barnaul"], "20100 21600 25200 28800",
    ["-26330735j 5538215k 445127d 4391c 4369d 4391c 4369d 4391c 4393d 4370c 4368d 4368c 4368d",
     "4368c 4368d 4368c 4368d 4368c 4368d 4368c 4368d 4536c 8737b 2688c 1679d 4368c 4368d 4368c",
     "4368d 4368c 4368d 1509c 2860b 4536c 5040b 3696c 5040b 3696c 5040b 3696c 5208b 3528c 5208b",
     "3528c 5208b 3696c 5040b 3696c 5040b 3696c 5208b 3528c 5208b 3528c 5208b 3528c 5208b 3696c",
     "5040b 3696c 5040b 3696c 5208b 3528c 31415b 12433c"],
    "25200"⟩,
  ⟨["Asia/Beirut"], "8520 7200 10800",
    ["-47335822j 21162262k 5063b 3841c 4391b 4177c 4703b 4705c 3527b 294745c 3671b 5089c 3671b",
     "5089c 3671b 5113c 3671b 5089c 3671b 94009c 2423b 5089c 3671b 5089c 3671b 5089c 3671b 5113c",
     "3671b 5089c 3671b 5065c 3671b 48961c 4031b 4729c 4031b 4729c 4031b 4729c 4031b 5497c 3287b",
     "4945c 3815b 4729c 4031b 4729c 4031b 4753c 3743b 4201c 4367b 4369c 4367b 4369c 4367b 4537c",
     "4367b 4369c 4367b 4369c 4367b"],
    "7200 10800 3 5 0 0 10 5 0 0"⟩,
  ⟨["Asia/Bishkek"], "17904 18000 21600 25200",
    ["-1441169904r 193622304s 445127d 4391c 4369d 4391c 4369d 4391c 4393d 4370c 4368d 4368c 4368d",
     "4368c 4368d 4368c 4368d 4368c 4368d 4368c 4368d 4536c 8040b 5399c 4031b 4705c 4031b 4705c",
     "4031b 4705c 4031b 4705c 4199b 262290k 5039b 3697c 5039b 3697c 5207b 3529c 5207b 3529c 5207b",
     "3697c 5039b 3697c 5039b 3697c 5207b 3529c"],
    "21600"⟩,
  ⟨["Asia/Brunei"], "27580 27000 28800",
    ["-1383464380r 215827780s"],
    "28800"⟩,
  ⟨["Asia/Calcutta Asia/Kolkata"], "21208 21200 19270 19800 23400",
    ["-3645237208r 489542408s 1135989130t 1128124270u 5423d 2617e 27359d"],
    "19800"⟩,
  ⟨["Asia/Chita"], "27232 28800 32400 36000",
    ["-1579419232r 331860832s 445127d 4391c 4369d 4391c 4369d 4391c 4393d 4370c 4368d 4368c 4368d",
     "4368c 4368d 4368c 4368d 4368c 4368d 4368c 4368d 4536c 8737b 2688c 1679d 4368c 4368d 4368c",
     "4368d 4368c 4368d 4368c 4536d 5040c 3696d 5040c 3696d 5040c 3696d 5208c 3528d 5208c 3528d",
     "5208c 3696d 5040c 3696d 5040c 3696d 5208c 3528d 5208c 3528d 5208c 3528d 5208c 3696d 5040c",
     "3696d 5040c 3696d 5208c 3528d 31415b 12434c"],
    "32400"⟩,
  ⟨["Asia/Choibalsan Asia/Ulaanbaatar Asia/Ulan_Bator"], "25652 25200 28800 32400",
    ["-2032931252r 2285366852s 45983d 4391c 4393d 4367c 4369d 4367c 4369d 4367c 4369d 4367c 4369d",
     "4367c 4369d 4367c 4369d 4535c 4369d 4367c 4369d 4367c 4369d 4367c 4369d 4367c 4369d 4367c",
     "4537d 4367c 4369d 4367c 4369d 4367c 22659d 3695c 4369d 4367c 4369d 4367c 4369d 4367c 4369d",
     "4367c 4369d 4535c 74425d 4365c 4371d 4365c"],
    "28800"⟩,
  ⟨["Asia/Chongqing Asia/Chungking Asia/Harbin Asia/Shanghai PRC"], "29143 28800 32400",
    ["-2177481943r 576806743s 4103b 181177c 3215b 3673c 5567b 2161c 31439b 6121c 3335b 4705c 4799b",
     "4369c 3671b 5089c 647b 323763c 3191b 5041c 3695b 5209c 3527b 5209c 3695b 5041c 3695b 5041c",
     "3695b"],
    "28800"⟩,
  ⟨["Asia/Colombo"], "19164 19172 19800 21600 23400",
    ["-2840159964r 820454392s 1136418572t 344130m 1643130k 443615e 221730l 4979550k"],
    "19800"⟩,
  ⟨["Asia/Dacca Asia/Dhaka"], "21700 21200 23400 19800 21600 25200",
    ["-2524543300r 1632960500s 19524200t 2617c 79583e 30359490n 4680e"],
    "21600"⟩,
  ⟨["Asia/Damascus"], "8712 7200 10800",
    ["-1577931912r 9339912s 4031b 4705c 4031b 4705c 4031b 4705c 4199b 338017c 3719b 5089c 3647b",
     "5137c 3671b 5089c 3647b 4945c 3839b 5089c 3671b 5113c 3671b 5089c 3671b 5089c 3671b 5089c",
     "3671b 5113c 3671b 5089c 3671b 5089c 3671b 5089c 3671b 5113c 3671b 5089c 2951b 5809c 2951b",
     "40345c 4199b 4585c 4199b 12073c 5639b 3433c 5855b 3265c 5519b 3625c 4415b 4369c 4367b 4391c",
     "4391b 4561c 4223b 4225c 4391b 4513c 4391b 4369c 4391b 4393c 4391b 4345c 4415b 4321c 4439b",
     "4369c 4391b 4393c 4391b 4369c 4391b 4369c 4391b 4369c 4391b 4393c 4391b 4369c 4391b 4369c",
     "4175b 4537c 5207b 3697c 5063b 3505c 5207b 3697c 5039b 3697c 5039b 3697c 5039b 3697c 5039b",
     "3697c 5207b 3529c 5207b 3529c 5207b 3697c 5039b 3697c 5039b 3697c 5039b 3697c 5207b 3529c",
     "5207b 3529c"],
    "10800"⟩,
  ⟨["Asia/Dili"], "30140 28800 32400",
    ["-508448b 264239c 299736b 213673c"],
    "32400"⟩,
  ⟨["Asia/Dubai"], "13272 14400",
    ["-1577936472r"],
    "14400"⟩,
  ⟨["Asia/Dushanbe"], "16512 18000 21600 25200",
    ["-1441168512r 193620912s 445127d 4391c 4369d 4391c 4369d 4391c 4393d 4370c 4368d 4368c 4368d",
     "4368c 4368d 4368c 4368d 4368c 4368d 4368c 4368d 4536c 8257b"],
    "18000"⟩,
  ⟨["Asia/Famagusta"], "8148 7200 10800",
    ["-1518920148r 1685492148s 4367b 5185c 3575b 4177c 4199b 4537c 4391b 4345c 4367b 4537c 4199b",
     "4369c 4367b 4369c 4367b 4369c 4367b 4369c 4535b 4369c 4367b 4369c 4367b 4369c 4367b 4369c",
     "4367b 4369c 4367b 4369c 4535b 4369c 4367b 4369c 4367b 4369c 4367b 4369c 4367b 4369c 4367b",
     "4537c 4367b 4369c 4367b 4369c 5043b 3696c 5208b 3528c 5208b 3528c 5208b 3696c 5040b 3696c",
     "5040b 3696c 5208b 3528c 5208b 3528c 5208b 3528c 5208b 3696c 5040b 3696c 5040b 3696c 5208b",
     "3528c 5208b 3528c 5208b 3696c 5040b 3696c 5040b 3696c 5040b 3696c 13944b"],
    "7200 10800 3 5 0 10800 10 5 0 14400"⟩,
  ⟨["Asia/Gaza"], "8272 7200 10800",
    ["-2185409872r 1251771472s 2928b 1128c 17136b 3624c 5136b 3648c 5136b 3984c 4776b 3984c 4776b",
     "92230c 3455b 5089c 3671b 5090c 3649b 5135c 3649b 5111c 3649b 5111c 3649b 5111c 3649b 5135c",
     "3649b 5111c 3649b 5111c 3673b 5087c 838b 62137c 2351b 4537c 3191b 43177c 1008b 31920c 2688b",
     "5544c 3359b 6217c 2687b 5281c 3623b 5041c 3527b 5713c 3023b 4873c 3695b 5041c 3863b 5041c",
     "3863b 4993c 3743b 4993c 3575b 5161c 3743b 5161c 4032b 4704c 4032b 4704c 4032b 5040c 4367b",
     "4537c 4367b 4369c 4367b 4369c 4367b 4369c 4367b 4369c 4032b 4704c 4129b 4295c 4175b 4585c",
     "3961b 4727c 3695b 5041c 3864b 293761k 197219j 335581k 175619j 5809c 4200b 4536c 4367b 4369c",
     "5039b 3721c 5016b 3721c 5207b 3529c 5207b 3529c 5207b 3672c 5063b 3697c 5040b 3696c 5184b",
     "3576c 5185b 4369c 4367b 4201c 4535b 4033c 4703b 3697c 5039b 3697c 5207b 3529c 5207b 3529c",
     "5207b 3697c 5039b 3697c 5039b 3697c 5207b 3529c 5207b 3529c 5207b 3529c 5207b 3697c 4871b",
     "3865c 4703b 4033c 4367b 4369c 4199b 4537c 3863b 1177c 167b 3697c 3527b 1009c 503b 3697c",
     "3359b 1009c 671b 3697c 3023b 1177c 839b 3697c 2855b 1009c 1343b 3529c 2687b 1009c 1511b",
     "3529c 2351b 1177c 1679b 3697c 2015b 1009c 2015b 3697c 1679b 1177c 2183b 3697c 1511b 1009c",
     "2687b 3529c 1343b 1009c 2855b 3529c 1007b 1177c 3023b 3697c 671b 1009c 3359b 3697c 335b",
     "1177c 3527b 3697c 167b 1177c 3695b 4705c 4199b 4369c 4367b 4033c 4703b 3865c 4871b 3697c",
     "5039b 3697c 5207b 3529c 5207b 3529c 5207b 3529c 5207b 3697c 5039b 3697c 5039b 3697c 5207b",
     "3529c 5207b 3529c 5039b 3865c 4703b 4033c 4535b 4201c 4199b 4537c 4031b 1009c 167b 3529c",
     "3863b 1009c 335b 3529c 3527b 1177c 503b 3697c 3191b 1009c 839b 3697c 2855b 1177c 1007b 3697c",
     "2687b 1177c 1343b 3529c 2519b 1009c 1679b 3529c 2183b 1177c 1847b 3697c 1847b 1009c 2183b",
     "3697c 1679b 1009c 2351b 3697c 1343b 1177c 2519b 3697c 1175b 1009c 3023b 3529c 839b 1177c",
     "3191b 3529c 671b 1177c 3359b 3697c 335b 1009c"],
    "7200 10800 3 4 4 180000 10 4 4 180000"⟩,
  ⟨["Asia/Hebron"], "8423 7200 10800",
    ["-2185410023r 1251771623s 2928b 1128c 17136b 3624c 5136b 3648c 5136b 3984c 4776b 3984c 4776b",
     "92230c 3455b 5089c 3671b 5090c 3649b 5135c 3649b 5111c 3649b 5111c 3649b 5111c 3649b 5135c",
     "3649b 5111c 3649b 5111c 3673b 5087c 838b 62137c 2351b 4537c 3191b 43177c 1008b 31920c 2688b",
     "5544c 3359b 6217c 2687b 5281c 3623b 5041c 3527b 5713c 3023b 4873c 3695b 5041c 3863b 5041c",
     "3863b 4993c 3743b 4993c 3575b 5161c 3743b 5161c 4032b 4704c 4032b 4704c 4032b 5040c 4367b",
     "4537c 4367b 4369c 4367b 4369c 4367b 4369c 4367b 4369c 4032b 4704c 4129b 4295c 4175b 4585c",
     "3961b 4727c 3767b 4969c 3864b 4872c 3311b 335581k 175619j 697c 743b 4369c 4200b 4536c 4367b",
     "4369c 5039b 3721c 5016b 3721c 5207b 3529c 5207b 3529c 5207b 3672c 5063b 3697c 5040b 3696c",
     "5184b 3576c 5185b 4369c 4367b 4201c 4535b 4033c 4703b 3697c 5039b 3697c 5207b 3529c 5207b",
     "3529c 5207b 3697c 5039b 3697c 5039b 3697c 5207b 3529c 5207b 3529c 5207b 3529c 5207b 3697c",
     "4871b 3865c 4703b 4033c 4367b 4369c 4199b 4537c 3863b 1177c 167b 3697c 3527b 1009c 503b",
     "3697c 3359b 1009c 671b 3697c 3023b 1177c 839b 3697c 2855b 1009c 1343b 3529c 2687b 1009c",
     "1511b 3529c 2351b 1177c 1679b 3697c 2015b 1009c 2015b 3697c 1679b 1177c 2183b 3697c 1511b",
     "1009c 2687b 3529c 1343b 1009c 2855b 3529c 1007b 1177c 3023b 3697c 671b 1009c 3359b 3697c",
     "335b 1177c 3527b 3697c 167b 1177c 3695b 4705c 4199b 4369c 4367b 4033c 4703b 3865c 4871b",
     "3697c 5039b 3697c 5207b 3529c 5207b 3529c 5207b 3529c 5207b 3697c 5039b 3697c 5039b 3697c",
     "5207b 3529c 5207b 3529c 5039b 3865c 4703b 4033c 4535b 4201c 4199b 4537c 4031b 1009c 167b",
     "3529c 3863b 1009c 335b 3529c 3527b 1177c 503b 3697c 3191b 1009c 839b 3697c 2855b 1177c 1007b",
     "3697c 2687b 1177c 1343b 3529c 2519b 1009c 1679b 3529c 2183b 1177c 1847b 3697c 1847b 1009c",
     "2183b 3697c 1679b 1009c 2351b 3697c 1343b 1177c 2519b 3697c 1175b 1009c 3023b 3529c 839b",
     "1177c 3191b 3529c 671b 1177c 3359b 3697c 335b 1009c"],
    "7200 10800 3 4 4 180000 10 4 4 180000"⟩,
  ⟨["Asia/Ho_Chi_Minh Asia/Saigon"], "25590 25200 28800 32400",
    ["-1851577590r 999471990s 19295d 4104b 13826c 72312b 39479c 135408b"],
    "25200"⟩,
  ⟨["Asia/Hong_Kong Hongkong"], "27402 28800 32400 30600",
    ["-571303b 321050c 2592d 122190k 2050650j 3695c 322770j 3192c 5544b 3696c 4368b 3696c 5040b",
     "3696c 5040b 3696c 5040b 3864c 5040b 3696c 5039b 3361c 5375b 3361c 5543b 3193c 5543b 3361c",
     "5375b 3361c 5375b 3361c 5375b 3361c 5543b 3193c 5543b 3193c 5543b 3361c 5375b 3361c 5375b",
     "4033c 4367b 4369c 4367b 4369c 4535b 4369c 4367b 4369c 4367b 4369c 4367b 4369c 4367b 4369c",
     "4535b 4369c 4367b 1681c 7055b 4369c 4367b 4369c 4367b 22513c 3863b"],
    "28800"⟩,
  ⟨["Asia/Hovd"], "21996 21600 25200 28800",
    ["-2032927596r 2285366796s 45983d 4391c 4393d 4367c 4369d 4367c 4369d 4367c 4369d 4367c 4369d",
     "4367c 4369d 4367c 4369d 4535c 4369d 4367c 4369d 4367c 4369d 4367c 4369d 4367c 4369d 4367c",
     "4537d 4367c 4369d 4367c 4369d 4367c 22659d 3695c 4369d 4367c 4369d 4367c 4369d 4367c 4369d",
     "4367c 4369d 4535c 74425d 4365c 4371d 4365c"],
    "25200"⟩,
  ⟨["Asia/Irkutsk"], "25025 25200 28800 32400",
    ["-1575874625r 328319825s 445127d 4391c 4369d 4391c 4369d 4391c 4393d 4370c 4368d 4368c 4368d",
     "4368c 4368d 4368c 4368d 4368c 4368d 4368c 4368d 4536c 8737b 2688c 1679d 4368c 4368d 4368c",
     "4368d 4368c 4368d 4368c 4536d 5040c 3696d 5040c 3696d 5040c 3696d 5208c 3528d 5208c 3528d",
     "5208c 3696d 5040c 3696d 5040c 3696d 5208c 3528d 5208c 3528d 5208c 3528d 5208c 3696d 5040c",
     "3696d 5040c 3696d 5208c 3528d 31415c"],
    "28800"⟩,
  ⟨["Asia/Istanbul Europe/Istanbul Turkey"], "6952 7016 7200 10800 14400",
    ["-2840147752r 970271936s 176169416t 3671c 30577d 5063c 3841d 4391c 4177d 4703c 13993d 3383c",
     "5089d 3671c 129289d 2327c 1345d 7055c 4609d 30863c 5665d 2927c 4825d 4031c 4705d 4031c 4537d",
     "4199c 4705d 4199c 4705d 4031c 94417d 11327c 4753d 3335c 76010d 3696c 3529d 5207c 3337d 5399c",
     "3361d 5375c 3697d 4703c 4033d 46703e 1511d 9505c 4080d 3864c 4392d 4368c 4368d 4368c 4368d",
     "4368c 4368d 4368c 4368d 4536c 4368d 4368c 4368d 4368c 4368d 4368c 4200d 4536c 4368d 4368c",
     "4536d 5040c 3696d 5040c 3696d 5040c 3696d 5208c 3528d 5208c 3528d 5208c 3696d 5040c 3696d",
     "5040c 3696d 5208c 3528d 5208c 3528d 5208c 3530d 5208c 3696d 5040c 3696d 5040c 3696d 5208c",
     "3552d 5184c 3528d 5208c 3696d 5040c 3720d 5016c 3696d 5376c 3360d"],
    "10800"⟩,
  ⟨["Asia/Jakarta"], "25632 26400 27000 32400 28800 25200",
    ["-24195320j 77448c 4937750l 1843110k 1369530m 1051170k 7189950n"],
    "25200"⟩,
  ⟨["Asia/Jayapura"], "33768 32400 34200",
    ["-1172913768r 373422168s 10167810j"],
    "32400"⟩,
  ⟨["Asia/Jerusalem Asia/Tel_Aviv Israel"], "8454 8440 7200 10800 14400",
    ["-2840149254r 1199145614s 707365240t 2928c 1128d 17136c 3624d 5136c 3648d 5136c 3984d 4776c",
     "3984d 4776c 13656e 2424d 1464c 4344d 4416c 3984d 3648c 4752d 5376c 3864d 4368c 4200d 3696c",
     "6552d 2184c 6552d 2184c 6384d 2856c 5040d 3528c 147166d 2351c 4537d 3191c 43177d 1008c",
     "31920d 2688c 5544d 3359c 6217d 2687c 5281d 3623c 5041d 3527c 5713d 3023c 4873d 3695c 5041d",
     "3863c 5041d 3863c 4993d 3743c 4993d 3575c 5161d 3743c 4657d 4439c 4465d 4247c 4489d 4079c",
     "4995d 3695c 5377d 4198c 4441d 4031c 4465d 4607c 4129d 4535c 4489d 4031c 4586d 4583c 4153d",
     "4415c 4321d 4079c 4657d 4583c 4153d 4415c 4321d 4079c 4825d 4415c 4321d 4247c"],
    "7200 10800 3 4 4 93600 10 5 0 7200"⟩,
  ⟨["Asia/Kabul"], "16608 14400 16200",
    ["-2524538208r 1735605408s"],
    "16200"⟩,
  ⟨["Asia/Kamchatka"], "38076 39600 43200 46800",
    ["-1487759676r 240190476s 445127d 4391c 4369d 4391c 4369d 4391c 4393d 4370c 4368d 4368c 4368d",
     "4368c 4368d 4368c 4368d 4368c 4368d 4368c 4368d 4536c 8737b 2688c 1679d 4368c 4368d 4368c",
     "4368d 4368c 4368d 4368c 4536d 5040c 3696d 5040c 3696d 5040c 3696d 5208c 3528d 5208c 3528d",
     "5208c 3696d 5040c 3696d 5040c 3696d 5208c 3528d 5208c 3528d 5208c 3528d 5208c 3696d 5040c",
     "3696d 5040c 8905b 3528c"],
    "43200"⟩,
  ⟨["Asia/Karachi"], "16092 19800 23400 18000 21600",
    ["-1988166492r 1125529092s 27359b 52225d 26570910m 4367d 49561e 3671d 3961e 4799d"],
    "18000"⟩,
  ⟨["Asia/Kashgar Asia/Urumqi"], "21020 21600",
    ["-1325483420r"],
    "21600"⟩,
  ⟨["Asia/Kathmandu Asia/Katmandu"], "20476 19800 20700",
    ["-1577943676r 2082845476s"],
    "20700"⟩,
  ⟨["Asia/Khandyga"], "32533 28800 32400 36000 39600",
    ["-1579424533r 331866133s 445127d 4391c 4369d 4391c 4369d 4391c 4393d 4370c 4368d 4368c 4368d",
     "4368c 4368d 4368c 4368d 4368c 4368d 4368c 4368d 4536c 8737b 2688c 1679d 4368c 4368d 4368c",
     "4368d 4368c 4368d 4368c 4536d 5040c 3696d 5040c 3696d 5040c 3696d 5208c 3528d 5208c 3528d",
     "5208c 3696d 5040c 3696d 5040c 1606d 2089e 5208d 3528e 5208d 3528e 5208d 3528e 5208d 3696e",
     "5040d 3696e 5040d 3696e 5208d 3528e 4077d 27339c"],
    "32400"⟩,
  ⟨["Asia/Krasnoyarsk"], "22286 21600 25200 28800",
    ["-1577513486r 329962286s 445127d 4391c 4369d 4391c 4369d 4391c 4393d 4370c 4368d 4368c 4368d",
     "4368c 4368d 4368c 4368d 4368c 4368d 4368c 4368d 4536c 8737b 2688c 1679d 4368c 4368d 4368c",
     "4368d 4368c 4368d 4368c 4536d 5040c 3696d 5040c 3696d 5040c 3696d 5208c 3528d 5208c 3528d",
     "5208c 3696d 5040c 3696d 5040c 3696d 5208c 3528d 5208c 3528d 5208c 3528d 5208c 3696d 5040c",
     "3696d 5040c 3696d 5208c 3528d 31415c"],
    "25200"⟩,
  ⟨["Asia/Kuala_Lumpur"], "24406 24925 25200 26400 27000 32400 28800",
    ["-2177477206r 139276281s 870566125t 4557580m 241910n 1877670m 318241g"],
    "28800"⟩,
  ⟨["Asia/Kuching"], "26480 27000 28800 30000 32400",
    ["-1383463280r 215826680s 1419810l 131020k 396020l 131020k 394580l 131020k 394580l 131020k",
     "394580l 131020k 396020l 131020k 394580l 131020k 92180m 31295c"],
    "28800"⟩,
  ⟨["Asia/Kuwait"], "11516 10800",
    ["-631163516r"],
    "10800"⟩,
  ⟨["Asia/Macao Asia/Macau"], "27250 28800 32400 36000",
    ["-2056692850r 1172183650s 3119d 4823c 3937d 3671c 17546b 5088c 3672b 4824c 5400b 3696c 4368b",
     "3672c 5040b 3696c 5040b 3696c 5064b 3840c 5040b 3696c 5040b 3360c 5376b 3360c 5544b 3192c",
     "332850j 3361c 5375b 3361c 5375b 3361c 5375b 3361c 5543b 3193c 5543b 3193c 5543b 3361c 5375b",
     "3361c 5375b 4033c 4366b 4370c 4366b 4370c 4535b 4369c 4367b 4369c 4367b 4369c 4367b 4369c",
     "4367b 4369c 4535b 4369c 4367b 1681c 7055b 4369c 4367b 4369c 4367b 22513c 3863b"],
    "28800"⟩,
  ⟨["Asia/Magadan"], "36192 36000 39600 43200",
    ["-1441188192r 193622592s 445127d 4391c 4369d 4391c 4369d 4391c 4393d 4370c 4368d 4368c 4368d",
     "4368c 4368d 4368c 4368d 4368c 4368d 4368c 4368d 4536c 8737b 2688c 1679d 4368c 4368d 4368c",
     "4368d 4368c 4368d 4368c 4536d 5040c 3696d 5040c 3696d 5040c 3696d 5208c 3528d 5208c 3528d",
     "5208c 3696d 5040c 3696d 5040c 3696d 5208c 3528d 5208c 3528d 5208c 3528d 5208c 3696d 5040c",
     "3696d 5040c 3696d 5208c 3528d 31415b 13106c"],
    "39600"⟩,
  ⟨["Asia/Makassar Asia/Ujung_Pandang"], "28656 28800 32400",
    ["-1172908656r 292636656s 31727b"],
    "28800"⟩,
  ⟨["Asia/Manila"], "-57368 29032 28800 32400",
    ["-3944621032r 1725537832s 325668d 1823c 43081d 34703c 73297d 1295c 199969d 4271c 110977d",
     "1655c"],
    "28800"⟩,
  ⟨["Asia/Muscat"], "14064 14400",
    ["-1577937264r"],
    "14400"⟩,
  ⟨["Asia/Nicosia Europe/Nicosia"], "8008 7200 10800",
    ["-1518920008r 1685492008s 4367b 5185c 3575b 4177c 4199b 4537c 4391b 4345c 4367b 4537c 4199b",
     "4369c 4367b 4369c 4367b 4369c 4367b 4369c 4535b 4369c 4367b 4369c 4367b 4369c 4367b 4369c",
     "4367b 4369c 4367b 4369c 4535b 4369c 4367b 4369c 4367b 4369c 4367b 4369c 4367b 4369c 4367b",
     "4537c 4367b 4369c 4367b 4369c"],
    "7200 10800 3 5 0 10800 10 5 0 14400"⟩,
  ⟨["Asia/Novokuznetsk"], "20928 21600 25200 28800",
    ["-1441259328r 193708128s 445127d 4391c 4369d 4391c 4369d 4391c 4393d 4370c 4368d 4368c 4368d",
     "4368c 4368d 4368c 4368d 4368c 4368d 4368c 4368d 4536c 8737b 2688c 1679d 4368c 4368d 4368c",
     "4368d 4368c 4368d 4368c 4536d 5040c 3696d 5040c 3696d 5040c 3696d 5208c 3528d 5208c 3528d",
     "5208c 3696d 5040c 3696d 5040c 3696d 5208c 3528d 5208c 3528d 5208c 3528d 5208c 3696d 5040c",
     "3696d 5040c 8905b 3528c"],
    "25200"⟩,
  ⟨["Asia/Novosibirsk"], "19900 21600 25200 28800",
    ["-1579476700r 331925500s 445127d 4391c 4369d 4391c 4369d 4391c 4393d 4370c 4368d 4368c 4368d",
     "4368c 4368d 4368c 4368d 4368c 4368d 4368c 4368d 4536c 8737b 2688c 1679d 4368c 4368d 1341c",
     "3028b 4368c 4368b 4368c 4368b 4536c 5040b 3696c 5040b 3696c 5040b 3696c 5208b 3528c 5208b",
     "3528c 5208b 3696c 5040b 3696c 5040b 3696c 5208b 3528c 5208b 3528c 5208b 3528c 5208b 3696c",
     "5040b 3696c 5040b 3696c 5208b 3528c 31415b 15289c"],
    "25200"⟩,
  ⟨["Asia/Omsk"], "17610 18000 21600 25200",
    ["-1582088010r 334540410s 445127d 4391c 4369d 4391c 4369d 4391c 4393d 4370c 4368d 4368c 4368d",
     "4368c 4368d 4368c 4368d 4368c 4368d 4368c 4368d 4536c 8737b 2688c 1679d 4368c 4368d 4368c",
     "4368d 4368c 4368d 4368c 4536d 5040c 3696d 5040c 3696d 5040c 3696d 5208c 3528d 5208c 3528d",
     "5208c 3696d 5040c 3696d 5040c 3696d 5208c 3528d 5208c 3528d 5208c 3528d 5208c 3696d 5040c",
     "3696d 5040c 3696d 5208c 3528d 31415c"],
    "21600"⟩,
  ⟨["Asia/Oral"], "12324 10800 18000 21600 14400",
    ["-1441164324r 193623924s 445126d 13151c 4369d 4391c 4393d 4370c 4368d 4368c 4368d 4368c 4368d",
     "4368c 4368d 4368c 8737e 4368c 4536e 4368c 4368e 2688c 6048e 4368c 4368e 4368c 4368e 4368c",
     "4368e 4536c 5040e 3696c 5040e 3696c 5040e 3696c 5208e 3528c 5208e 3528c 5208e 3696c 5040e",
     "3696c 5040e 3696c"],
    "18000"⟩,
  ⟨["Asia/Phnom_Penh"], "25180 25590 25200 28800 32400",
    ["-2004073180r 152495590s 999471990t 19295e 4104c"],
    "25200"⟩,
  ⟨["Asia/Pontianak"], "26240 27000 32400 28800 25200",
    ["-1172906240r 291685640s 1919430j 1369530l 1051170j 7189950l 12623010m"],
    "25200"⟩,
  ⟨["Asia/Pyongyang"], "30180 30600 32400",
    ["-32479703j 1972793k 54499650j 23856c"],
    "32400"⟩,
  ⟨["Asia/Qatar"], "12368 14400 10800",
    ["-1577935568r 1654125968s"],
    "10800"⟩,
  ⟨["Asia/Qostanay"], "15268 14400 18000 21600",
    ["-1441167268r 193623268s 445127d 13151c 4369d 4391c 4393d 4370c 4368d 4368c 4368d 4368c 4368d",
     "4368c 4368d 4368c 4368d 4368c 4368d 4536c 8737b 2688c 1679d 4368c 4368d 4368c 4368d 4368c",
     "4368d 4368c 4536d 5040c 3696d 5040c 3696d 5040c 3696d 5208c 3528d 5208c 3528d 5208c 3696d",
     "5040c 3696d 5040c 3696d 174669c"],
    "18000"⟩,
  ⟨["Asia/Qyzylorda"], "15712 14400 18000 21600",
    ["-1441167712r 193623712s 445127d 13151c 4369d 4391c 4393d 4370c 4368d 4368c 4368d 4368c 4368d",
     "4368c 4368d 4368c 4368d 4368c 4368d 4536c 11424d 6048c 4368d 4368c 4368d 4368c 4368d 4368c",
     "4536d 5040c 3696d 5040c 3696d 5040c 3696d 5208c 3528d 5208c 3528d 5208c 3696d 5040c 3696d",
     "5040c 3696d 129141c"],
    "18000"⟩,
  ⟨["Asia/Rangoon Asia/Yangon"], "23087 23400 32400",
    ["-1577946287r 704678087s 1580970j"],
    "23400"⟩,
  ⟨["Asia/Riyadh"], "11212 10800",
    ["-719636812r"],
    "10800"⟩,
  ⟨["Asia/Sakhalin"], "34248 32400 39600 43200 36000",
    ["-2031039048r 1262478648s 312070d 4391c 4369d 4391c 4369d 4391c 4393d 4370c 4368d 4368c 4368d",
     "4368c 4368d 4368c 4368d 4368c 4368d 4368c 4368d 4536c 8737e 2688c 1679d 4368c 4368d 4368c",
     "4368d 4368c 4368d 4368c 4536d 5040c 8737e 3696c 5040e 3696c 5208e 3528c 5208e 3528c 5208e",
     "3696c 5040e 3696c 5040e 3696c 5208e 3528c 5208e 3528c 5208e 3528c 5208e 3696c 5040e 3696c",
     "5040e 3696c 5208e 3528c 31415e 12433c"],
    "39600"⟩,
  ⟨["Asia/Samarkand"], "16073 14400 18000 21600",
    ["-1441168073r 193624073s 445127d 13151c 4369d 4391c 4393d 4370c 4368d 4368c 4368d 4368c 4368d",
     "4368c 4368d 4368c 4368d 4368c 4368d 4536c 4368d 4368c"],
    "18000"⟩,
  ⟨["Asia/Seoul ROK"], "30472 30600 32400 36000 34200",
    ["-1948782472r 118367872s 19153410l 2495c 4849d 3863c 4849d 3887c 5713d 3023c 22177b 590430m",
     "3047b 6097e 3191b 5209e 3359b 5377e 3359b 5377e 3359b 5377e 3359b 7825c 13541850l 3696c",
     "5040d 3696c"],
    "32400"⟩,
  ⟨["Asia/Singapore Singapore"], "24925 25200 26400 27000 32400 28800",
    ["-2038200925r 870566125s 4557580l 241910m 1877670l 318241f"],
    "28800"⟩,
  ⟨["Asia/Srednekolymsk"], "36892 36000 39600 43200",
    ["-1441188892r 193623292s 445127d 4391c 4369d 4391c 4369d 4391c 4393d 4370c 4368d 4368c 4368d",
     "4368c 4368d 4368c 4368d 4368c 4368d 4368c 4368d 4536c 8737b 2688c 1679d 4368c 4368d 4368c",
     "4368d 4368c 4368d 4368c 4536d 5040c 3696d 5040c 3696d 5040c 3696d 5208c 3528d 5208c 3528d",
     "5208c 3696d 5040c 3696d 5040c 3696d 5208c 3528d 5208c 3528d 5208c 3528d 5208c 3696d 5040c",
     "3696d 5040c 3696d 5208c 3528d 31415c"],
    "39600"⟩,
  ⟨["Asia/Taipei ROC"], "29160 28800 32400",
    ["-38920806j 21957126k 69888b 5664c 3335b 4705c 4799b 4369c 3671b 5089c 3671b 5089c 3671b",
     "5089c 3671b 3649c 5879b 3625c 5135b 3625c 5135b 3625c 4391b 4393c 4391b 4369c 4391b 4369c",
     "4391b 4369c 4391b 5857c 2927b 5833c 2927b 109561c 4391b 4369c 4391b 32857c 2207b"],
    "28800"⟩,
  ⟨["Asia/Tashkent"], "16631 18000 21600 25200",
    ["-1441168631r 193621031s 445127d 4391c 4369d 4391c 4369d 4391c 4393d 4370c 4368d 4368c 4368d",
     "4368c 4368d 4368c 4368d 4368c 4368d 4368c 4368d 4536c 8737b"],
    "18000"⟩,
  ⟨["Asia/Tbilisi"], "10751 10800 14400 18000",
    ["-1441162751r 1036022351s 211127d 4391c 4369d 4391c 4369d 4391c 4393d 4370c 4368d 4368c 4368d",
     "4368c 4368d 4368c 4368d 4368c 4368d 4368c 4368d 4536c 8737b 4366c 4367b 4369c 4367b 4369c",
     "8735d 4367c 4537d 13775c 3697d 5039c 3697d 5207c 3529d 5207c 3529d 5207c 3697d 5039c 3697d",
     "5039c 3697d 2183c 3028b 3528c"],
    "14400"⟩,
  ⟨["Asia/Tehran Iran"], "12344 12600 16200 14400 18000",
    ["-1090466744r 1318287344s 5112d 223230m 3192d 2352b 283710k 2759b 4417c 4463b 92977c 3407b",
     "4369c 4415b 4345c 4415b 4345c 4415b 4345c 4415b 4345c 4415b 4369c 4415b 4345c 4415b 4345c",
     "4415b 4345c 4415b 4369c 4415b 4345c 4415b 4345c 4415b 4345c 4415b 4369c 4415b 21865c 4415b",
     "4369c 4415b 4345c 4415b 4345c 4415b 4345c 4415b 4369c 4415b 4345c 4415b 4345c 4415b 4345c",
     "4415b 4369c 4415b 4345c 4415b 4345c 4415b 4345c 4415b 4369c 4415b 4345c 4415b"],
    "12600"⟩,
  ⟨["Asia/Thimbu Asia/Thimphu"], "21516 19800 21600",
    ["-706341516r 1266366516s"],
    "21600"⟩,
  ⟨["Asia/Tokyo Japan"], "33539 32400 36000",
    ["-718809b 528864c 3192b 4872c 3864b 5712c 3024b 5712c 3024b"],
    "32400"⟩,
  ⟨["Asia/Tomsk"], "20391 21600 25200 28800",
    ["-1578807591r 331256391s 445127d 4391c 4369d 4391c 4369d 4391c 4393d 4370c 4368d 4368c 4368d",
     "4368c 4368d 4368c 4368d 4368c 4368d 4368c 4368d 4536c 8737b 2688c 1679d 4368c 4368d 4368c",
     "4368d 4368c 4368d 4368c 4536d 5040c 3696d 5040c 3696d 5040c 3696d 5208c 3528d 5208c 3528d",
     "5208c 3696d 744c 4297b 3696c 5040b 3696c 5208b 3528c 5208b 3528c 5208b 3528c 5208b 3696c",
     "5040b 3696c 5040b 3696c 5208b 3528c 31415b 13945c"],
    "25200"⟩,
  ⟨["Asia/Ust-Nera"], "34374 28800 32400 43200 39600 36000",
    ["-1579426374r 331867974s 445127d 4389e 4369d 4391e 4369d 4391e 4393d 4370e 4368d 4368e 4368d",
     "4368e 4368d 4368e 4368d 4368e 4368d 4368e 4368d 4536e 8737f 2688e 1679d 4368e 4368d 4368e",
     "4368d 4368e 4368d 4368e 4536d 5040e 3696d 5040e 3696d 5040e 3696d 5208e 3528d 5208e 3528d",
     "5208e 3696d 5040e 3696d 5040e 3696d 5208e 3528d 5208e 3528d 5208e 3528d 5208e 3696d 5040e",
     "3696d 5040e 3696d 5208e 3528d 4077e 27339f"],
    "36000"⟩,
  ⟨["Asia/Vientiane"], "24624 25590 25200 28800 32400",
    ["-2004072624r 152495034s 999471990t 19295e 4104c 13826d 70463c"],
    "25200"⟩,
  ⟨["Asia/Vladivostok"], "31651 32400 36000 39600",
    ["-1487321251r 239759251s 445127d 4391c 4369d 4391c 4369d 4391c 4393d 4370c 4368d 4368c 4368d",
     "4368c 4368d 4368c 4368d 4368c 4368d 4368c 4368d 4536c 8737b 2688c 1679d 4368c 4368d 4368c",
     "4368d 4368c 4368d 4368c 4536d 5040c 3696d 5040c 3696d 5040c 3696d 5208c 3528d 5208c 3528d",
     "5208c 3696d 5040c 3696d 5040c 3696d 5208c 3528d 5208c 3528d 5208c 3528d 5208c 3696d 5040c",
     "3696d 5040c 3696d 5208c 3528d 31415c"],
    "36000"⟩,
  ⟨["Asia/Yakutsk"], "31138 28800 32400 36000",
    ["-1579423138r 331864738s 445127d 4391c 4369d 4391c 4369d 4391c 4393d 4370c 4368d 4368c 4368d",
     "4368c 4368d 4368c 4368d 4368c 4368d 4368c 4368d 4536c 8737b 2688c 1679d 4368c 4368d 4368c",
     "4368d 4368c 4368d 4368c 4536d 5040c 3696d 5040c 3696d 5040c 3696d 5208c 3528d 5208c 3528d",
     "5208c 3696d 5040c 3696d 5040c 3696d 5208c 3528d 5208c 3528d 5208c 3528d 5208c 3696d 5040c",
     "3696d 5040c 3696d 5208c 3528d 31415c"],
    "32400"⟩,
  ⟨["Asia/Yekaterinburg"], "14553 13505 14400 18000 21600",
    ["-1688270553r 95660248s 345066305t 445127e 4391d 4369e 4391d 4369e 4391d 4393e 4370d 4368e",
     "4368d 4368e 4368d 4368e 4368d 4368e 4368d 4368e 4368d 4368e 4536d 8737c 2688d 1679e 4368d",
     "4368e 4368d 4368e 4368d 4368e 4368d 4536e 5040d 3696e 5040d 3696e 5040d 3696e 5208d 3528e",
     "5208d 3528e 5208d 3696e 5040d 3696e 5040d 3696e 5208d 3528e 5208d 3528e 5208d 3528e 5208d",
     "3696e 5040d 3696e 5040d 3696e 5208d 3528e 31415d"],
    "18000"⟩,
  ⟨["Asia/Yerevan"], "10680 10800 14400 18000",
    ["-24019378j 17267038k 211127d 4391c 4369d 4391c 4369d 4391c 4393d 4370c 4368d 4368c 4368d",
     "4368c 4368d 4368c 4368d 4368c 4368d 4368c 4368d 4536c 8737b 4368c 4368b 4368c 4368b 4368c",
     "4368b 4368c 17639d 5040c 3696d 5040c 3696d 5208c 3528d 5208c 3528d 5208c 3696d 5040c 3696d",
     "5040c 3696d 5208c 3528d 5208c 3528d 5208c 3528d 5208c 3696d 5040c 3696d 5040c 3696d 5208c",
     "3528d 5208c"],
    "14400"⟩,
  ⟨["Atlantic/Azores"], "-6160 -6872 -7200 -3600 0 3600",
    ["-2713904240r 883527440s 39119d 3265c 2880d 5471c 3289d 5471c 3289d 5471c 3313d 5471c 3289d",
     "5471c 21960d 4104c 13440d 4032c 4536d 4200c 4704d 4200c 4704d 4032c 13440d 4032c 4368d 4368c",
     "13272d 4368c 4200d 4536c 4704d 4032c 4368d 4368c 4200d 4536c 4704d 5208c 2352d 5424c 4320d",
     "4392c 3840d 1007e 2688d 1681c 3360d 839e 3192d 1513c 3192d 1007e 3024d 1513c 3192d 1007e",
     "3024d 1513c 3864d 4368c 4371d 4368c 4368d 4368c 4368d 4368c 4368d 4368c 4368d 4536c 4368d",
     "4368c 4368d 4368c 4368d 4368c 4368d 4368c 4368d 4536c 4368d 4368c 4368d 4368c 4368d 4368c",
     "4368d 4368c 4368d 4368c 4368d 4536c 4368d 4368c 4368d 4368c 4368d 4368c 4368d 140109e 4368d",
     "4368e 4368d 4368e 4536d 4368e 4368d 4368e 4368d 4368e 4368d 4368e 4368d 4368e 4368d 4368e",
     "4536d 4368e 4368d 4368e 4368d 2185e 2183f 1944e 2424d 4368e 4368d 4368e 4368d"],
    "-3600 0 3 5 0 0 10 5 0 3600"⟩,
  ⟨["Atlantic/Bermuda"], "-15558 -11958 -14400 -10800",
    ["-1664307642r 4271a 4681b 3719a 99003c 379554042t 6719c 3697d 5375c 3193d 5711c 3025d 5711c",
     "13441d 2855c 6049d 2519c 6217d 2519c 6385d 2351c 6385d 2351c 6385d 2519c 32593d 3695c",
     "153385d 4367c 4369d 4367c 4369d 4535c 4201d 4535c 4369d 4367c 4369d 4367c 4369d 4367c 4369d",
     "4367c 4369d 4535c 4201d 4535c 4369d 4367c 4369d 4367c 4369d 4367c 3865d 4871c 3865d 5039c",
     "3697d 5039c 3697d 5039c 3865d 4871c 3865d 4871c 3865d 5039c 3697d 5039c 3697d 5039c 3865d",
     "4871c 3865d 4871c 3865d 4871c 3865d 5039c 3697d 5039c 3697d 5039c 3865d 4871c 3865d 4871c",
     "3865d 5039c 3697d 5039c 3697d 5039c"],
    "-14400 -10800 3 2 0 7200 11 1 0 7200"⟩,
  ⟨["Atlantic/Canary"], "-3696 -3600 0 3600",
    ["-1509663504r 775789104s 293806d 4201c 4368d 4368c 4368d 4368c 4368d 4368c 4368d 4536c 4368d",
     "4368c 4368d 4368c 4368d 4368c 4368d 4368c 4368d 4368c 4368d 4536c 4368d 4368c 4368d 4368c",
     "4368d 4368c 4368d 4368c 4368d 4368c"],
    "0 3600 3 5 0 3600 10 5 0 7200"⟩,
  ⟨["Atlantic/Cape_Verde"], "-5644 -7200 -3600",
    ["-508438b 268824c 27359b 263955c"],
    "-3600"⟩,
  ⟨["Atlantic/Faeroe Atlantic/Faroe"], "-1624 0 3600",
    ["-1955748776r 2310424376s 4368b 4368c 4368b 4368c 4368b 4368c 4536b 4368c 4368b 4368c 4368b",
     "4368c 4368b 4368c 4368b 4368c 4368b 4368c 4536b 4368c 4368b 4368c 4368b 4368c 4368b 4368c",
     "4368b 4368c 4368b"],
    "0 3600 3 5 0 3600 10 5 0 7200"⟩,
  ⟨["Atlantic/Madeira"], "-4056 -3600 0 3600",
    ["-508439b 39119c 3265b 2880c 5471b 3289c 5471b 3289c 5471b 3313c 5471b 3289c 5471b 21960c",
     "4104b 13440c 4032b 4536c 4200b 4704c 4200b 4704c 4032b 13440c 4032b 4368c 4368b 13272c 4368b",
     "4200c 4536b 4704c 4032b 4368c 4368b 4200c 4536b 4704c 5208b 2352c 5424b 4320c 4392b 3840c",
     "1007d 2688c 1681b 3360c 839d 3192c 1513b 3192c 1007d 3024c 1513b 3192c 1007d 3024c 1513b",
     "3864c 4368b 4371c 4368b 4368c 4368b 4368c 4368b 4368c 4368b 4368c 4536b 4368c 4368b 4368c",
     "4368b 4368c 4368b 4368c 4368b 4368c 4536b 4368c 4368b 4368c 4368b 4368c 4368b 4368c 4368b",
     "4368c 4368b 4368c 4536b 4368c 4368b 4368c 4368b 4368c 4368b 4368c 140277d 4200c 4368d 4368c",
     "4368d 4536c 4368d 4368c 4368d 4369c 4368d 4368c 4368d 4368c 4368d 4368c 4368d 4536c 4368d",
     "4368c 4368d 4368c 4368d 4368c 4368d 4368c 4368d 4368c"],
    "0 3600 3 5 0 3600 10 5 0 7200"⟩,
  ⟨["Atlantic/Reykjavik Iceland"], "-5280 -3600 0",
    ["-32610152j 4806632k 5833b 2927c 6457b 2303c 6457b 11759c 2281b 156479c 4370b 2857c 6047b",
     "2856c 5880b 3024c 5544b 3192c 5544b 3192c 5544b 3192c 5712b 3024c 5712b 3864c 4872b 3864c",
     "4872b 3864c 5040b 3696c 4872b 3864c 5040b 3864c 4872b 3864c 4872b 3864c 4872b 3864c 4872b",
     "3864c 5040b 3864c 4872b 3864c 4872b 3864c 4872b 3864c 4872b 3864c 4872b 3864c 5040b 3864c",
     "4872b 3864c 4872b 3864c 4872b 3864c 4872b 3864c 5040b 3864c"],
    "0"⟩,
  ⟨["Atlantic/South_Georgia"], "-8768 -7200",
    ["-2524512832r"],
    "-7200"⟩,
  ⟨["Atlantic/St_Helena"], "-1368 0",
    ["-599614632r"],
    "0"⟩,
  ⟨["Atlantic/Stanley"], "-13884 -14400 -10800 -7200",
    ["-1824235716r 806026116s 4199b 4537c 4199b 4705c 4199b 4537c 4199b 4537c 4199b 4537c 2303b",
     "353521c 3527d 5207c 3361d 5375c 8569b 3529c 5207b 3529c 5207b 3529c 5207b 3529c 5375b 3361c",
     "5375b 3529c 5207b 3529c 5207b 3529c 5207b 3529c 5207b 3529c 5375b 3529c 5207b 3529c 5207b",
     "3529c 5207b 3529c 5207b 3529c 5209b 3361c 5543b 3193c 5543b 3361c 5375b 3361c 5375b 3361c",
     "5375b 3361c 5375b 3361c 5543b 3361c 5375b 3361c 5375b 3361c"],
    "-10800"⟩,
  ⟨["Australia/ACT Australia/Canberra Australia/NSW Australia/Sydney"], "36292 36000 39600",
    ["-2364113092r 691553092s 1992b 217152c 2088b 4368c 4368b 4536c 4200b 241920c 2856b 5880c",
     "3024b 5712c 3024b 5712c 3024b 5712c 3192b 5712c 3024b 5712c 3024b 5712c 3024b 5712c 3024b",
     "5712c 3024b 5712c 3864b 5040c 3024b 5712c 3024b 5712c 3024b 5712c 3360b 5208c 3528b 5376c",
     "3528b 5376c 3360b 5376c 3024b 5712c 3024b 5712c 3024b 5712c 3192b 5712c 3024b 5712c 3024b",
     "5712c 3696b 5040c 3696b 5040c 3696b 5040c 3696b 5208c 3528b 3696c 5040b 5208c 3696b 5040c",
     "3696b 5040c 3696b 5208c 3528b 5208c 3696b 5040c 3528b 5208c"],
    "36000 39600 10 1 0 7200 4 1 0 10800"⟩,
  ⟨["Australia/Adelaide Australia/South"], "33260 32400 34200 37800",
    ["-2364110060r 133920860s 9293850l 1992c 217152d 2088c 4368d 4368c 4536d 4200c 241920d 2856c",
     "5880d 3024c 5712d 3024c 5712d 3024c 5712d 3192c 5712d 3024c 5712d 3024c 5712d 3024c 5712d",
     "3024c 5712d 3024c 5712d 3192c 5712d 3024c 5712d 3024c 5712d 3024c 5712d 3360c 5208d 3528c",
     "5376d 3528c 5376d 3360c 5376d 3360c 5376d 3024c 5712d 3528c 5208d 3192c 5712d 3360c 5376d",
     "3528c 5208d 3696c 5040d 3696c 5040d 3696c 5040d 3696c 5208d 3528c 5208d 3528c 5208d 3696c",
     "5040d 3696c 5040d 3696c 5208d 3528c 5208d 3696c 5040d 3528c 5208d"],
    "34200 37800 10 1 0 7200 4 1 0 10800"⟩,
  ⟨["Australia/Brisbane Australia/Queensland"], "36728 36000 39600",
    ["-2366791928r 694231928s 1992b 217152c 2088b 4368c 4368b 4536c 4200b 241920c 2856b 154896c",
     "3024b 5712c 3024b 5712c 3024b"],
    "36000"⟩,
  ⟨["Australia/Broken_Hill Australia/Yancowinna"], "33948 36000 32400 34200 37800",
    ["-2364110748r 49159548s 23545d 9293850m 1992d 217152e 2088d 4368e 4368d 4536e 4200d 241920e",
     "2856d 5880e 3024d 5712e 3024d 5712e 3024d 5712e 3192d 5712e 3024d 5712e 3024d 5712e 3024d",
     "5712e 3024d 5712e 3024d 5712e 3864d 5040e 3024d 5712e 3024d 5712e 3024d 5712e 3360d 5208e",
     "3528d 5376e 3528d 5376e 3360d 5376e 3024d 5712e 3024d 5712e 3024d 5712e 3192d 5712e 3024d",
     "5712e 3024d 5712e 3696d 5040e 3696d 5040e 3696d 5040e 3696d 5208e 3528d 5208e 3528d 5208e",
     "3696d 5040e 3696d 5040e 3696d 5208e 3528d 5208e 3696d 5040e 3528d 5208e"],
    "34200 37800 10 1 0 7200 4 1 0 10800"⟩,
  ⟨["Australia/Currie Australia/Hobart Australia/Tasmania"], "35356 36000 39600",
    ["-2345795356r 665286556s 4200b 5208c 3024b 5712c 3024b 200184c 2088b 4368c 4368b 4536c 4200b",
     "206136c 4368b 5040c 3192b 5544c 3192b 5544c 3360b 5544c 2856b 5880c 3024b 5712c 3024b 5712c",
     "3024b 5712c 3192b 5712c 3024b 5712c 3024b 5712c 3024b 5712c 3024b 5712c 3024b 5712c 3696b",
     "5208c 3528b 5208c 3024b 5712c 3024b 5712c 3024b 5544c 3528b 5376c 3528b 5376c 3360b 5376c",
     "3360b 5376c 3696b 4536c 4200b 4536c 4200b 4536c 4200b 4536c 4200b 4536c 4368b 4536c 4200b",
     "4536c 4200b 4536c 4200b 4536c 4200b 3696c 5040b 4704c 4200b 4536c 4200b 4536c 4200b 4536c",
     "4200b 4536c 4368b 4368c 4200b"],
    "36000 39600 10 1 0 7200 4 1 0 10800"⟩,
  ⟨["Australia/Darwin Australia/North"], "31400 32400 34200 37800",
    ["-2364108200r 133919000s 9293850l 1992c 217152d 2088c 4368d 4368c 4536d 4200c"],
    "34200"⟩,
  ⟨["Australia/Eucla"], "30928 31500 35100",
    ["-2337928528r 665373028s 1992b 217152c 2088b 4368c 4368b 276864c 3024b 75936c 3024b 67536c",
     "2520b 129360c 2688b 5208c 3696b 5040c 3696b"],
    "31500"⟩,
  ⟨["Australia/LHI Australia/Lord_Howe"], "38180 36000 37800 41400 39600",
    ["-2364114980r 2716331780s 342810l 3191c 5713d 3023c 5713d 3023c 5713d 3023c 5713e 201570k",
     "312510m 211650k 322590m 211650k 322590m 201570k 322590m 181410k 342750m 181410k 342750m",
     "181410k 342750m 191490k 342750m 181410k 342750m 181410k 342750m 221730k 302430m 221730k",
     "302430m 221730k 302430m 221730k 312510m 211650k 221790m 302370k 312510m 221730k 302430m",
     "221730k 302430m 221730k 312510m 211650k 312510m 221730k 302430m 211650k 312510m"],
    "37800 39600 10 1 0 7200 4 1 0 7200"⟩,
  ⟨["Australia/Lindeman"], "35756 36000 39600",
    ["-2366790956r 694230956s 1992b 217152c 2088b 4368c 4368b 4536c 4200b 241920c 2856b 154896c",
     "3024b 5712c 3024b 5712c 3024b 5712c 3192b 5712c 3024b"],
    "36000"⟩,
  ⟨["Australia/Melbourne Australia/Victoria"], "34792 36000 39600",
    ["-2364111592r 691551592s 1992b 217152c 2088b 4368c 4368b 4536c 4200b 241920c 2856b 5880c",
     "3024b 5712c 3024b 5712c 3024b 5712c 3192b 5712c 3024b 5712c 3024b 5712c 3024b 5712c 3024b",
     "5712c 3024b 5712c 3192b 5712c 3024b 5712c 3024b 5712c 3024b 5712c 3360b 5208c 3528b 5208c",
     "3696b 5376c 3360b 5376c 3360b 5376c 3024b 5712c 3024b 5712c 3192b 5712c 3024b 5712c 3528b",
     "5208c 3696b 5040c 3696b 5040c 3696b 5040c 3696b 5208c 3528b 3696c 5040b 5208c 3696b 5040c",
     "3696b 5040c 3696b 5208c 3528b 5208c 3696b 5040c 3528b 5208c"],
    "36000 39600 10 1 0 7200 4 1 0 10800"⟩,
  ⟨["Australia/Perth Australia/West"], "27804 28800 32400",
    ["-2337925404r 665372604s 1992b 217152c 2088b 4368c 4368b 276864c 3024b 75936c 3024b 67536c",
     "2520b 129360c 2688b 5208c 3696b 5040c 3696b"],
    "28800"⟩,
  ⟨["CET"], "3600 7200",
    ["-470474b 3673a 4730b 3696a 5040b 3696a 188832b 22680a 3528b 4536a 4368b 4368a 4368b 4008a",
     "276528b 4200a 4536b 4368a 4368b 4368a 4536b 4200a 4368b 4368a 4368b 4368a 4368b 4368a 4368b",
     "4536a 4368b 4368a 4368b 4368a 4368b 4368a 4368b 4368a 4368b 4368a 4368b 4536a 4368b 4368a",
     "4368b 4368a 4368b 4368a 4368b 4368a 4368b 4368a"],
    "3600 7200 3 5 0 7200 10 5 0 10800"⟩,
  ⟨["CST6CDT"], "-21600 -18000",
    ["-453688b 5039a 3697b 5039a 195409b 31895a 189169b 4367a 4369b 4367a 4369b 4367a 4369b 4367a",
     "4369b 4535a 4369b 4367a 4369b 4367a 1681b 7055a 2857b 5879a 4369b 4535a 4201b 4535a 4369b",
     "4367a 4369b 4367a 4369b 4367a 4369b 4367a 4369b 4535a 4201b 4535a 4369b 4367a 4369b 4367a",
     "4369b 4367a 3865b 4871a 3865b 5039a 3697b 5039a 3697b 5039a 3865b 4871a 3865b 4871a 3865b",
     "5039a 3697b 5039a 3697b 5039a 3865b 4871a 3865b 4871a 3865b 4871a 3865b 5039a 3697b 5039a",
     "3697b 5039a 3865b 4871a 3865b 4871a 3865b 5039a 3697b 5039a 3697b 5039a"],
    "-21600 -18000 3 2 0 7200 11 1 0 7200"⟩,
  ⟨["Chile/EasterIsland Pacific/Easter"], "-26248 -25200 -21600 -18000",
    ["-1178124152r 1141504952s 3527b 5713c 3023b 4705c 3695b 5041c 3695b 5209c 3527b 4873c 3863b",
     "5209c 3527b 5209c 3695b 5041c 3695b 5041c 3695b 5209c 3527b 5209c 3527b 5209c 3695b 5041c",
     "8736d 3695c 5041d 3695c 5209d 3527c 5209d 3527c 5209d 4367c 4369d 3695c 5041d 3695c 5209d",
     "3527c 4537d 4199c 5209d 3695c 5041d 3695c 5041d 3695c 5041d 3695c 5209d 3527c 5209d 4031c",
     "4705d 3695c 4705d 4535c 4537d 3695c 5209d 3527c 5209d 3527c 5209d 3527c 5209d 3695c 5041d",
     "3695c 5041d 3695c 5209d 3527c 5209d 4031c 4705d 3695c 5041d 4199c 4537d 5039c 2521d 6047c",
     "3025d 5711c 3193d 5543c 3193d 14783c 2185d 6551c 2185d 6551c 2185d 5711c 3697d 5039c 3697d",
     "5039c 3697d 5039c 3865d"],
    "-21600 -18000 9 1 6 79200 4 1 6 79200"⟩,
  ⟨["EET"], "7200 10800",
    ["63577b 4200a 4536b 4368a 4368b 4368a 4536b 4200a 4368b 4368a 4368b 4368a 4368b 4368a 4368b",
     "4536a 4368b 4368a 4368b 4368a 4368b 4368a 4368b 4368a 4368b 4368a 4368b 4536a 4368b 4368a",
     "4368b 4368a 4368b 4368a 4368b 4368a 4368b 4368a"],
    "7200 10800 3 5 0 10800 10 5 0 14400"⟩,
  ⟨["EST"], "",
    [],
    "-18000"⟩,
  ⟨["EST5EDT"], "-18000 -14400",
    ["-453689b 5039a 3697b 5039a 195409b 31895a 189169b 4367a 4369b 4367a 4369b 4367a 4369b 4367a",
     "4369b 4535a 4369b 4367a 4369b 4367a 1681b 7055a 2857b 5879a 4369b 4535a 4201b 4535a 4369b",
     "4367a 4369b 4367a 4369b 4367a 4369b 4367a 4369b 4535a 4201b 4535a 4369b 4367a 4369b 4367a",
     "4369b 4367a 3865b 4871a 3865b 5039a 3697b 5039a 3697b 5039a 3865b 4871a 3865b 4871a 3865b",
     "5039a 3697b 5039a 3697b 5039a 3865b 4871a 3865b 4871a 3865b 4871a 3865b 5039a 3697b 5039a",
     "3697b 5039a 3865b 4871a 3865b 4871a 3865b 5039a 3697b 5039a 3697b 5039a"],
    "-18000 -14400 3 2 0 7200 11 1 0 7200"⟩,
  ⟨["Eire Europe/Dublin"], "-1521 2079 0 3600",
    ["-1691962479r 3192c 16328079t 3888c 4512d 4560c 4344d 4392c 4344d 5064c 3840d 4392c 4176d",
     "4704c 4704d 3528c 5040d 3864c 5040d 4032c 4704d 4032c 4536d 4200c 4872d 4032c 4704d 4032c",
     "4536d 4200c 4704d 4032c 4704d 4032c 4536d 4368c 4704d 4032c 4536d 4200c 4704d 4032c 4704d",
     "4032c 4536d 4200c 4704d 5208c 2352d 57960c 3864d 5544c 4032d 4704c 3696d 5040c 4032d 4536c",
     "4200d 4536c 4368d 4536c 4200d 4032c 4536d 4200c 4704d 4032c 4872d 4032c 4536d 4200c 4704d",
     "4032c 4704d 4032c 4536d 4200c 4200d 5208c 3528d 5208c 3696d 5040c 3528d 5208c 3528d 5208c",
     "3528d 5208c 3528d 5376c 2688d 32424c 3360d 5376c 3360d 5376c 3360d 5376c 3360d 5376c 3528d",
     "5208c 3528d 5208c 3528d 5376c 3360d 5376c 3360d 5376c 3695d 5040c 3696d 5040c 3696d 5040c",
     "3696d 5208c 3696d 5040c 3696d 5040c 3696d 5040c 3696d 5040c 3696d 5208c 3528d 5208c 3696d",
     "5040c 3696d 5040c 3696d 5040c 3696d 5040c 3696d 5040c"],
    "0 3600 3 5 0 3600 10 5 0 7200"⟩,
  ⟨["Etc/GMT Etc/GMT+0 Etc/GMT-0 Etc/GMT0 Etc/Greenwich GMT GMT+0 GMT-0",
    "GMT0 Greenwich"], "",
    [],
    "0"⟩,
  ⟨["Etc/GMT+1"], "",
    [],
    "-3600"⟩,
  ⟨["Etc/GMT+10"], "",
    [],
    "-36000"⟩,
  ⟨["Etc/GMT+11"], "",
    [],
    "-39600"⟩,
  ⟨["Etc/GMT+12"], "",
    [],
    "-43200"⟩,
  ⟨["Etc/GMT+2"], "",
    [],
    "-7200"⟩,
  ⟨["Etc/GMT+3"], "",
    [],
    "-10800"⟩,
  ⟨["Etc/GMT+4"], "",
    [],
    "-14400"⟩,
  ⟨["Etc/GMT+5"], "",
    [],
    "-18000"⟩,
  ⟨["Etc/GMT+6"], "",
    [],
    "-21600"⟩,
  ⟨["Etc/GMT+7"], "",
    [],
    "-25200"⟩,
  ⟨["Etc/GMT+8"], "",
    [],
    "-28800"⟩,
  ⟨["Etc/GMT+9"], "",
    [],
    "-32400"⟩,
  ⟨["Etc/GMT-1"], "",
    [],
    "3600"⟩,
  ⟨["Etc/GMT-10"], "",
    [],
    "36000"⟩,
  ⟨["Etc/GMT-11"], "",
    [],
    "39600"⟩,
  ⟨["Etc/GMT-12"], "",
    [],
    "43200"⟩,
  ⟨["Etc/GMT-13"], "",
    [],
    "46800"⟩,
  ⟨["Etc/GMT-14"], "",
    [],
    "50400"⟩,
  ⟨["Etc/GMT-2"], "",
    [],
    "7200"⟩,
  ⟨["Etc/GMT-3"], "",
    [],
    "10800"⟩,
  ⟨["Etc/GMT-4"], "",
    [],
    "14400"⟩,
  ⟨["Etc/GMT-5"], "",
    [],
    "18000"⟩,
  ⟨["Etc/GMT-6"], "",
    [],
    "21600"⟩,
  ⟨["Etc/GMT-7"], "",
    [],
    "25200"⟩,
  ⟨["Etc/GMT-8"], "",
    [],
    "28800"⟩,
  ⟨["Etc/GMT-9"], "",
    [],
    "32400"⟩,
  ⟨["Etc/UCT Etc/UTC Etc/Universal Etc/Zulu UCT UTC Universal Zulu"], "",
    [],
    "0"⟩,
  ⟨["Europe/Amsterdam"], "1172 4772 4800 1200 7200 3600",
    ["-1693700372r 3671a 4731b 3696a 4704b 4368a 4536b 4200a 4536b 4200a 4536b 4200a 4344b 4704a",
     "5664b 3072a 4200b 4536a 5832b 2904a 5352b 3384a 5376b 3360a 5424b 3480a 5280b 3456a 5304b",
     "3432a 5328b 3408a 5544b 3192a 5400b 3504a 5256b 3480a 5280b 3456a 5328b 3408a 5520b 957c",
     "8132372t 5376c 3360d 5400c 3504d 5302e 1296080n 3528e 4536f 4368e 4368f 4368e 4008f 276528e",
     "4200f 4536e 4368f 4368e 4368f 4536e 4200f 4368e 4368f 4368e 4368f 4368e 4368f 4368e 4536f",
     "4368e 4368f 4368e 4368f 4368e 4368f 4368e 4368f 4368e 4368f 4368e 4536f 4368e 4368f 4368e",
     "4368f 4368e 4368f 4368e 4368f 4368e 4368f"],
    "3600 7200 3 5 0 7200 10 5 0 10800"⟩,
  ⟨["Europe/Andorra"], "364 0 3600 7200",
    ["-2177453164r 1443571564s 337489d 4368c 4368d 4368c 4368d 4368c 4368d 4368c 4368d 4368c 4368d",
     "4536c 4368d 4368c 4368d 4368c 4368d 4368c 4368d 4368c 4368d 4368c"],
    "3600 7200 3 5 0 7200 10 5 0 10800"⟩,
  ⟨["Europe/Astrakhan"], "11532 10800 14400 18000",
    ["-1441249932r 193709532s 445127d 4391c 4369d 4391c 4369d 4391c 4393d 4370c 4368d 4368c 4368d",
     "4368c 4368d 4368c 4368d 4368c 8737b 4368c 4536b 4368c 13104b 4368c 4368b 4368c 4368b 4368c",
     "4368b 4536c 5040b 3696c 5040b 3696c 5040b 3696c 5208b 3528c 5208b 3528c 5208b 3696c 5040b",
     "3696c 5040b 3696c 5208b 3528c 5208b 3528c 5208b 3528c 5208b 3696c 5040b 3696c 5040b 3696c",
     "5208b 3528c 31415b 12433c"],
    "14400"⟩,
  ⟨["Europe/Athens"], "5692 7200 10800 3600",
    ["-1686101632r 503105632s 1343b 75361c 551b 13228d 3550b 4511d 4393b 72239c 2975b 196705c",
     "5472b 3290c 4368b 4200c 4224b 4512c 4201b 4542c 4336b 4439c 4319b 4372c 4368b 4368c 4368b",
     "4368c 4368b 4368c 4536b 4368c 4368b 4368c 4368b 4368c 4368b 4368c 4368b 4368c 4368b 4368c",
     "4536b 4368c 4368b 4368c 4368b 4368c 4368b 4368c 4368b 4368c 4368b"],
    "7200 10800 3 5 0 10800 10 5 0 14400"⟩,
  ⟨["Europe/Belfast Europe/London GB GB-Eire"], "-75 0 3600 7200",
    ["-3852662325r 2160698325s 3192b 4536c 3888b 4512c 4560b 4344c 4392b 4344c 5064b 3840c 4392b",
     "4176c 4704b 4704c 3528b 5040c 3864b 5040c 4032b 4704c 4032b 4536c 4200b 4872c 4032b 4704c",
     "4032b 4536c 4200b 4704c 4032b 4704c 4032b 4536c 4368b 4704c 4032b 4536c 4200b 4704c 4032b",
     "4704c 4032b 4536c 4200b 4704c 5208b 2352c 10415d 2352c 5712d 3024c 5712d 3192c 5544d 4032c",
     "4728d 2496c 2017b 4536c 4200b 3864c 671d 2856c 2017b 3192c 5544b 3696c 5040b 4032c 4536b",
     "4200c 4536b 4368c 4536b 4200c 4032b 4536c 4200b 4704c 4032b 4872c 4032b 4536c 4200b 4704c",
     "4032b 4704c 4032b 4536c 4200b 4200c 5208b 3528c 5208b 3696c 5040b 3528c 5208b 3528c 5208b",
     "3528c 5208b 3528c 5376b 2688c 32424b 3360c 5376b 3360c 5376b 3360c 5376b 3360c 5376b 3528c",
     "5208b 3528c 5208b 3528c 5376b 3360c 5376b 3360c 5376b 3695c 5040b 3696c 5040b 3696c 5040b",
     "3696c 5208b 3696c 5040b 3696c 5040b 3696c 5040b 3696c 5040b 3696c 5208b 3528c 5208b 3696c",
     "5040b 3696c 5040b 3696c 5040b 3696c 5040b 3696c 5040b"],
    "0 3600 3 5 0 3600 10 5 0 7200"⟩,
  ⟨["Europe/Belgrade Europe/Podgorica"], "4920 3600 7200",
    ["-45231922j 30134842k 13491b 3528c 4536b 4368c 4368b 5232c 3144b 328944c 4368b 4368c 4536b",
     "4368c 4368b 4368c 4368b 4368c 4368b 4368c 4368b 4368c 4368b 4368c 4536b 4368c 4368b 4368c",
     "4368b 4368c 4368b 4368c 4368b 4368c 4368b"],
    "3600 7200 3 5 0 7200 10 5 0 10800"⟩,
  ⟨["Europe/Berlin"], "3208 3600 7200 10800",
    ["-2422054408r 728348008s 3673b 4730c 3696b 5040c 3696b 188832c 22680b 3528c 4536b 4368c 4368b",
     "4368c 1247d 2952c 1321b 3528c 4224b 4345c 839d 1175c 2353b 4704c 4032b 4536c 4200b 267456c",
     "4200b 4368c 4368b 4368c 4368b 4368c 4368b 4368c 4536b 4368c 4368b 4368c 4368b 4368c 4368b",
     "4368c 4368b 4368c 4368b 4368c 4536b 4368c 4368b 4368c 4368b 4368c 4368b 4368c 4368b 4368c",
     "4368b"],
    "3600 7200 3 5 0 7200 10 5 0 10800"⟩,
  ⟨["Europe/Bratislava Europe/Prague"], "3464 3600 7200 0",
    ["-2469401864r 775695464s 3673b 4730c 3696b 5040c 3696b 188832c 22680b 3528c 4536b 4368c 4368b",
     "4368c 4368b 5208c 3672b 1345d 2016b 1343c 4032b 4704c 4032b 4512c 4224b 258552c 4368b 4536c",
     "4200b 4368c 4368b 4368c 4368b 4368c 4368b 4368c 4536b 4368c 4368b 4368c 4368b 4368c 4368b",
     "4368c 4368b 4368c 4368b 4368c 4536b 4368c 4368b 4368c 4368b 4368c 4368b 4368c 4368b 4368c",
     "4368b"],
    "3600 7200 3 5 0 7200 10 5 0 10800"⟩,
  ⟨["Europe/Brussels"], "1050 0 3600 7200",
    ["-680832b 197400c 12959d 3672c 4730d 3696c 5040d 3696c 1354b 2652c 5208b 3192c 6048b 3408c",
     "5400b 3624c 4704b 4704c 4032b 4200c 4536b 4368c 4368b 4704c 4032b 4536c 4200b 4704c 4203b",
     "4704c 4032b 4536c 4200b 4704c 4032b 4368c 4368b 4200c 4704b 4368c 4368b 4200c 4536b 4704c",
     "4032b 4368c 4368b 4200c 4536b 4704c 5208b 2352c 2040d 21503c 3528d 4536c 4368d 4008c 4728d",
     "4008c 5880d 3384c 267264d 4200c 4536d 4368c 4368d 4368c 4536d 4200c 4368d 4368c 4368d 4368c",
     "4368d 4368c 4368d 4536c 4368d 4368c 4368d 4368c 4368d 4368c 4368d 4368c 4368d 4368c 4368d",
     "4536c 4368d 4368c 4368d 4368c 4368d 4368c 4368d 4368c 4368d 4368c"],
    "3600 7200 3 5 0 7200 10 5 0 10800"⟩,
  ⟨["Europe/Bucharest"], "6264 7200 10800",
    ["-1213148664r 26091864s 3216b 4368c 4368b 4536c 4368b 4368c 4368b 4368c 4368b 4368c 4368b",
     "4368c 4368b 4368c 4368b 347592c 3023b 4536c 4201b 4370c 4368b 4368c 4368b 4368c 4368b 4368c",
     "4536b 4368c 4368b 4368c 4368b 4368c 4368b 4368c 4368b 4368c 4368b 4368c 4536b 4366c 4368b",
     "4368c 4368b 4368c 4368b 4368c 4367b 4369c 4367b 4537c 5039b"],
    "7200 10800 3 5 0 10800 10 5 0 14400"⟩,
  ⟨["Europe/Budapest"], "4580 3600 7200",
    ["-2498260580r 804554180s 3673b 4730c 3696b 5040c 3696b 5064c 3672b 4872c 4032b 180117c 13755b",
     "3528c 4536b 4368c 4368b 5085c 4393b 3602c 4559b 4345c 4368b 4368c 4368b 4536c 4200b 40654c",
     "3191b 5547c 3192b 5880c 2856b 5880c 2856b 197398c 4200b 4368c 4368b 4368c 4368b 4368c 4368b",
     "4370c 4536b 4368c 4368b 4368c 4368b 4368c 4368b 4368c 4368b 4368c 4368b 4368c 4536b 4368c",
     "4368b 4368c 4368b 4368c 4368b 4368c 4368b 4368c 4368b"],
    "3600 7200 3 5 0 7200 10 5 0 10800"⟩,
  ⟨["Europe/Busingen Europe/Zurich"], "2048 1786 3600 7200",
    ["-3675198848r 1289952262s 1480811386t 3696c 5040d 3696c 337321d 4368c 4368d 4368c 4368d 4368c",
     "4368d 4536c 4368d 4368c 4368d 4368c 4368d 4368c 4368d 4368c 4368d 4368c 4368d 4536c 4368d",
     "4368c 4368d 4368c 4368d 4368c 4368d 4368c 4368d 4368c"],
    "3600 7200 3 5 0 7200 10 5 0 10800"⟩,
  ⟨["Europe/Chisinau Europe/Tiraspol"], "6920 6900 6264 7200 10800 3600 14400",
    ["-2840147720r 1203033620s 423965436t 26091864u 3216d 4368e 4368d 4536e 4368d 4368e 4368d",
     "4368e 4368d 4368e 4368d 4368e 4368d 4368e 4368d 7656e 8063d 11356f 3528d 4536f 4368d 3429e",
     "320855g 4391e 4369g 4391e 4369g 4391e 4393g 4370e 4368g 4368e 4368g 4368e 4368g 4368e 4368g",
     "4368e 4368g 4368e 4368g 1007e 3530d 4368e 4368d 4366e 4367d 4369e 4367d 4369e 4367d 4369e",
     "4367d 4537e 5039d 3699e 5040d 3696e 5040d 3696e 5208d 3528e 5208d 3528e 5208d 3696e 5040d",
     "3696e 5040d 3696e 5208d 3528e 5208d 3528e 5208d 3528e 5208d 3696e 5040d 3696e 5040d 3696e",
     "5208d 3528e 5208d 3528e 5208d 3696e 5040d 3696e 5040d 3696e 5040d 3696e 5208d 3528e 5208d",
     "3528e 5208d 3696e 5040d 3696e 5040d 3696e 5208d"],
    "7200 10800 3 5 0 10800 10 5 0 14400"⟩,
  ⟨["Europe/Copenhagen"], "3020 3600 7200",
    ["-2398294220r 705797420s 3335b 207050c 21626b 3528c 4536b 4368c 4368b 4368c 3240b 6216c 2952b",
     "5880c 2352b 6552c 2184b 277536c 4200b 4368c 4368b 4368c 4368b 4368c 4368b 4368c 4536b 4368c",
     "4368b 4368c 4368b 4368c 4368b 4368c 4368b 4368c 4368b 4368c 4536b 4368c 4368b 4368c 4368b",
     "4368c 4368b 4368c 4368b 4368c 4368b"],
    "3600 7200 3 5 0 7200 10 5 0 10800"⟩,
  ⟨["Europe/Gibraltar"], "-1284 0 3600 7200",
    ["-2821649916r 1129685916s 3192b 4536c 3888b 4512c 4560b 4344c 4392b 4344c 5064b 3840c 4392b",
     "4176c 4704b 4704c 3528b 5040c 3864b 5040c 4032b 4704c 4032b 4536c 4200b 4872c 4032b 4704c",
     "4032b 4536c 4200b 4704c 4032b 4704c 4032b 4536c 4368b 4704c 4032b 4536c 4200b 4704c 4032b",
     "4704c 4032b 4536c 4200b 4704c 5208b 2352c 10415d 2352c 5712d 3024c 5712d 3192c 5544d 4032c",
     "4728d 2496c 2017b 4536c 4200b 3864c 671d 2856c 2017b 3192c 5544b 3696c 5040b 4032c 4536b",
     "4200c 4536b 4368c 4536b 4200c 4032b 4536c 4200b 4704c 4032b 4872c 4032b 4536c 218735d 4368c",
     "4368d 4368c 4368d 4536c 4368d 4368c 4368d 4368c 4368d 4368c 4368d 4368c 4368d 4368c 4368d",
     "4536c 4368d 4368c 4368d 4368c 4368d 4368c 4368d 4368c 4368d 4368c"],
    "3600 7200 3 5 0 7200 10 5 0 10800"⟩,
  ⟨["Europe/Guernsey"], "-609 0 3600 7200",
    ["-1784245791r 92281791s 3192b 4536c 3888b 4512c 4560b 4344c 4392b 4344c 5064b 3840c 4392b",
     "4176c 4704b 4704c 3528b 5040c 3864b 5040c 4032b 4704c 4032b 4536c 4200b 4872c 4032b 4704c",
     "4032b 4536c 4200b 4704c 4032b 4704c 4032b 4536c 4368b 4704c 4032b 4536c 4200b 4704c 4032b",
     "4704c 4032b 4536c 4200b 4704c 5208b 2352c 3069d 20474c 3528d 4536c 4368d 4368c 4368d 2496c",
     "2017b 4536c 4200b 3864c 671d 2856c 2017b 3192c 5544b 3696c 5040b 4032c 4536b 4200c 4536b",
     "4368c 4536b 4200c 4032b 4536c 4200b 4704c 4032b 4872c 4032b 4536c 4200b 4704c 4032b 4704c",
     "4032b 4536c 4200b 4200c 5208b 3528c 5208b 3696c 5040b 3528c 5208b 3528c 5208b 3528c 5208b",
     "3528c 5376b 2688c 32424b 3360c 5376b 3360c 5376b 3360c 5376b 3360c 5376b 3528c 5208b 3528c",
     "5208b 3528c 5376b 3360c 5376b 3360c 5376b 3695c 5040b 3696c 5040b 3696c 5040b 3696c 5208b",
     "3696c 5040b 3696c 5040b 3696c 5040b 3696c 5040b 3696c 5208b 3528c 5208b 3696c 5040b 3696c",
     "5040b 3696c 5040b 3696c 5040b 3696c 5040b"],
    "0 3600 3 5 0 3600 10 5 0 7200"⟩,
  ⟨["Europe/Helsinki Europe/Mariehamn"], "5989 7200 10800",
    ["-1535938789r 660267589s 4416b 337346c 4368b 4368c 4368b 4369c 4368b 4368c 4536b 4368c 4368b",
     "4368c 4368b 4368c 4368b 4368c 4368b 4368c 4368b 4368c 4536b 4368c 4368b 4368c 4368b 4368c",
     "4368b 4368c 4368b 4368c 4368b"],
    "7200 10800 3 5 0 10800 10 5 0 14400"⟩,
  ⟨["Europe/Isle_of_Man"], "-1075 0 3600 7200",
    ["-2737842125r 1045878125s 3192b 4536c 3888b 4512c 4560b 4344c 4392b 4344c 5064b 3840c 4392b",
     "4176c 4704b 4704c 3528b 5040c 3864b 5040c 4032b 4704c 4032b 4536c 4200b 4872c 4032b 4704c",
     "4032b 4536c 4200b 4704c 4032b 4704c 4032b 4536c 4368b 4704c 4032b 4536c 4200b 4704c 4032b",
     "4704c 4032b 4536c 4200b 4704c 5208b 2352c 10415d 2352c 5712d 3024c 5712d 3192c 5544d 4032c",
     "4728d 2496c 2017b 4536c 4200b 3864c 671d 2856c 2017b 3192c 5544b 3696c 5040b 4032c 4536b",
     "4200c 4536b 4368c 4536b 4200c 4032b 4536c 4200b 4704c 4032b 4872c 4032b 4536c 4200b 4704c",
     "4032b 4704c 4032b 4536c 4200b 4200c 5208b 3528c 5208b 3696c 5040b 3528c 5208b 3528c 5208b",
     "3528c 5208b 3528c 5376b 2688c 32424b 3360c 5376b 3360c 5376b 3360c 5376b 3360c 5376b 3528c",
     "5208b 3528c 5208b 3528c 5376b 3360c 5376b 3360c 5376b 3695c 5040b 3696c 5040b 3696c 5040b",
     "3696c 5208b 3696c 5040b 3696c 5040b 3696c 5040b 3696c 5040b 3696c 5208b 3528c 5208b 3696c",
     "5040b 3696c 5040b 3696c 5040b 3696c 5040b 3696c 5040b"],
    "0 3600 3 5 0 3600 10 5 0 7200"⟩,
  ⟨["Europe/Jersey"], "-506 0 3600 7200",
    ["-627248b 157258c 3192b 4536c 3888b 4512c 4560b 4344c 4392b 4344c 5064b 3840c 4392b 4176c",
     "4704b 4704c 3528b 5040c 3864b 5040c 4032b 4704c 4032b 4536c 4200b 4872c 4032b 4704c 4032b",
     "4536c 4200b 4704c 4032b 4704c 4032b 4536c 4368b 4704c 4032b 4536c 4200b 4704c 4032b 4704c",
     "4032b 4536c 4200b 4704c 5208b 2352c 3069d 20474c 3528d 4536c 4368d 4368c 4368d 2496c 2017b",
     "4536c 4200b 3864c 671d 2856c 2017b 3192c 5544b 3696c 5040b 4032c 4536b 4200c 4536b 4368c",
     "4536b 4200c 4032b 4536c 4200b 4704c 4032b 4872c 4032b 4536c 4200b 4704c 4032b 4704c 4032b",
     "4536c 4200b 4200c 5208b 3528c 5208b 3696c 5040b 3528c 5208b 3528c 5208b 3528c 5208b 3528c",
     "5376b 2688c 32424b 3360c 5376b 3360c 5376b 3360c 5376b 3360c 5376b 3528c 5208b 3528c 5208b",
     "3528c 5376b 3360c 5376b 3360c 5376b 3695c 5040b 3696c 5040b 3696c 5040b 3696c 5208b 3696c",
     "5040b 3696c 5040b 3696c 5040b 3696c 5040b 3696c 5208b 3528c 5208b 3696c 5040b 3696c 5040b",
     "3696c 5040b 3696c 5040b 3696c 5040b"],
    "0 3600 3 5 0 3600 10 5 0 7200"⟩,
  ⟨["Europe/Kaliningrad"], "4920 3600 7200 10800 14400",
    ["-40367602j 12139162k 3673b 4730c 3696b 5040c 3696b 188832c 22680b 3528c 4536b 4368c 4368b",
     "4368c 645d 4463c 3769d 306671e 4391d 4369e 4391d 4369e 4391d 4393e 4370d 4368e 4368d 4368e",
     "4368d 4368e 4368d 4368e 4368d 8737c 4368d 4536c 4368d 4368c 4368d 4368c 4368d 4368c 4368d",
     "4368c 4368d 4368c 4536d 5040c 3696d 5040c 3696d 5040c 3696d 5208c 3528d 5208c 3528d 5208c",
     "3696d 5040c 3696d 5040c 3696d 5208c 3528d 5208c 3528d 5208c 3528d 5208c 3696d 5040c 3696d",
     "5040c 3696d 5208c 3528d 31415c"],
    "7200"⟩,
  ⟨["Europe/Kiev Europe/Kyiv Europe/Uzhgorod Europe/Zaporozhye"], "7324 7200 10800 3600 14400",
    ["-1441159324r 193622524s 98615b 9796d 3528b 4536d 790c 327862e 4391c 4369e 4391c 4369e 4391c",
     "4393e 4370c 4368e 4368c 4368e 4368c 4368e 4368c 4368e 4368c 4368e 4368c 4368e 2351c 10922b",
     "4368c 4368b 4368c 4368b 4368c 4368b 4368c 4368b 4536c"],
    "7200 10800 3 5 0 10800 10 5 0 14400"⟩,
  ⟨["Europe/Kirov"], "11928 10800 14400 18000",
    ["-442728b 96189c 445127d 4391c 4369d 4391c 4369d 4391c 4393d 4370c 4368d 4368c 4368d 4368c",
     "4368d 4368c 4368d 4368c 8737b 4368c 4536b 4368c 13104b 4368c 4368b 4368c 4368b 4368c 4368b",
     "4536c 5040b 3696c 5040b 3696c 5040b 3696c 5208b 3528c 5208b 3528c 5208b 3696c 5040b 3696c",
     "5040b 3696c 5208b 3528c 5208b 3528c 5208b 3528c 5208b 3696c 5040b 3696c 5040b 3696c 5208b",
     "3528c 31415b"],
    "10800"⟩,
  ⟨["Europe/Lisbon Portugal"], "-2205 0 3600 7200",
    ["-508440b 39119c 3265b 2880c 5471b 3289c 5471b 3289c 5471b 3313c 5471b 3289c 5471b 21960c",
     "4104b 13440c 4032b 4536c 4200b 4704c 4200b 4704c 4032b 13440c 4032b 4368c 4368b 13272c 4368b",
     "4200c 4536b 4704c 4032b 4368c 4368b 4200c 4536b 4704c 5208b 2352c 5424b 4320c 4392b 3840c",
     "1007d 2688c 1681b 3360c 839d 3192c 1513b 3192c 1007d 3024c 1513b 3192c 1007d 3024c 1513b",
     "3864c 4368b 4371c 4368b 4368c 4368b 4368c 4368b 4368c 4368b 4368c 4536b 4368c 4368b 4368c",
     "4368b 4368c 4368b 4368c 4368b 4368c 4536b 4368c 4368b 4368c 4368b 4368c 4368b 4368c 4368b",
     "4368c 4368b 4368c 4536b 4368c 4368b 4368c 4368b 4368c 4368b 4368c 91894b 4368c 4368b 4537c",
     "4368b 4368c 4368b 4536c 4200b 4367c 4368b 4368c 4368b 4368c 4368b 4368c 4536b 4368c 4368b",
     "4369c 4368b 4368c 4368b 4368c 4368b 4368c 4368b 4368c 4536b 4368c 4368b 4368c 8736d 4368c",
     "4368d 4368c 4368d 4368c 9576b"],
    "0 3600 3 5 0 3600 10 5 0 7200"⟩,
  ⟨["Europe/Ljubljana"], "3484 3600 7200",
    ["-2713913884r 1808089084s 13491b 3528c 4536b 4368c 4368b 4368c 4008b 328944c 4368b 4368c",
     "4536b 4368c 4368b 4368c 4368b 4368c 4368b 4368c 4368b 4368c 4368b 4368c 4536b 4368c 4368b",
     "4368c 4368b 4368c 4368b 4368c 4368b 4368c 4368b"],
    "3600 7200 3 5 0 7200 10 5 0 10800"⟩,
  ⟨["Europe/Luxembourg"], "1476 3600 7200 0",
    ["-2069713476r 377216676s 3337b 5039c 3385b 5042c 3696b 1678d 2328b 5211d 3189b 6050d 3406b",
     "5402d 3622b 4705d 4703b 4034d 4198b 4537d 4391b 4345d 4703b 4033d 4535b 4201d 4703b 4201d",
     "4703b 4035d 4536b 4200d 4704b 4032d 4368b 4368d 4200b 4704d 4368b 4368d 4200b 4536d 4704b",
     "4032d 4368b 4368d 4200b 4536d 4704b 5208d 2352b 1896c 21647b 3528c 4536b 4368c 4032b 4704c",
     "4008b 5880c 3384b 267264c 4200b 4536c 4368b 4368c 4368b 4536c 4200b 4368c 4368b 4368c 4368b",
     "4368c 4368b 4368c 4536b 4368c 4368b 4368c 4368b 4368c 4368b 4368c 4368b 4368c 4368b 4368c",
     "4536b 4368c 4368b 4368c 4368b 4368c 4368b 4368c 4368b 4368c 4368b"],
    "3600 7200 3 5 0 7200 10 5 0 10800"⟩,
  ⟨["Europe/Madrid"], "-884 0 3600 7200",
    ["-604848b 151535c 4177b 4367c 4393b 39695c 4105b 13439c 4033b 4535c 4201b 4704c 4200b 4703c",
     "4033b 67463c 2593b 4367c 671d 3720c 8882b 3863c 18647d 2905c 5495d 4033c 4703d 4033c 4703d",
     "4033c 4703d 4033c 22679d 3697c 215039d 4201c 4535d 4201c 4199d 4369c 4535d 4201c 4538d 4368c",
     "4368d 4368c 4536d 4200c 4368d 4368c 4368d 4368c 4368d 4368c 4368d 4536c 4368d 4368c 4368d",
     "4368c 4368d 4368c 4368d 4368c 4368d 4368c 4368d 4536c 4368d 4368c 4368d 4368c 4368d 4368c",
     "4368d 4368c 4368d 4368c"],
    "3600 7200 3 5 0 7200 10 5 0 10800"⟩,
  ⟨["Europe/Malta"], "3484 3600 7200",
    ["-2403478684r 712713484s 2855b 4369c 4391b 3841c 5063b 3505c 5207b 4033c 4367b 173017c 20882b",
     "3528c 4536b 4344c 4032b 4728c 3982b 4394c 4872b 3862c 4872b 3530c 5208b 154558c 3023b 5881c",
     "2856b 5880c 2856b 6048c 2856b 5880c 2856b 5712c 3024b 5880c 3024b 4344c 4368b 4896c 3552b",
     "5186c 3695b 5041c 3695b 5041c 3695b 5041c 3695b 5041c 3695b 4729c 4175b 4537c 4368b 4368c",
     "4368b 4368c 4368b 4368c 4536b 4368c 4368b 4368c 4368b 4368c 4368b 4368c 4368b 4368c 4368b",
     "4368c 4536b 4368c 4368b 4368c 4368b 4368c 4368b 4368c 4368b 4368c 4368b"],
    "3600 7200 3 5 0 7200 10 5 0 10800"⟩,
  ⟨["Europe/Minsk"], "6616 6600 7200 10800 3600 14400",
    ["-2840147416r 1398988816s 3227030l 96599c 11812e 3528c 4536e 4368c 2181d 322103f 4391d 4369f",
     "4391d 4369f 4391d 4393f 4370d 4368f 4368d 4368f 4368d 4368f 4368d 4368f 4368d 4368f 4368d",
     "17641c 4368d 4368c 4368d 4368c 4368d 4368c 4368d 4368c 4536d 5040c 3696d 5040c 3696d 5040c",
     "3696d 5208c 3528d 5208c 3528d 5208c 3696d 5040c 3696d 5040c 3696d 5208c 3528d 5208c 3528d",
     "5208c 3528d 5208c 3696d 5040c 3696d 5040c 3696d 5208c 3528d"],
    "10800"⟩,
  ⟨["Europe/Monaco"], "1772 561 0 3600 7200",
    ["-2448318572r 593914811s 164588961t 2616c 4176d 4728c 3672d 5064c 3504d 5232c 3168d 6048c",
     "3408d 5400c 3624d 4704c 5544d 3192c 4200d 4536c 4368d 4368c 4704d 4032c 4536d 4200c 4704d",
     "4200c 4704d 4032c 4536d 4200c 4704d 4032c 4368d 4368c 4200d 4704c 4368d 4368c 4200d 4536c",
     "4704d 4032c 4368d 4368c 4200d 4536c 4704d 5208c 2355d 10437e 3695d 3697e 5714d 3528e 4536d",
     "4368e 4510d 4226e 4008d 267623e 4367d 4538e 4200d 4536e 4368d 4368e 4368d 4536e 4200d 4368e",
     "4368d 4368e 4368d 4368e 4368d 4368e 4536d 4368e 4368d 4368e 4368d 4368e 4368d 4368e 4368d",
     "4368e 4368d 4368e 4536d 4368e 4368d 4368e 4368d 4368e 4368d 4368e 4368d 4368e 4368d"],
    "3600 7200 3 5 0 7200 10 5 0 10800"⟩,
  ⟨["Europe/Moscow W-SU"], "9017 9079 12679 16279 14400 10800 18000 7200",
    ["-1688265017r 31445938s 4296b 3719d 2569c 6191d 2608279u 1100f 13176e 815g 3936e 721f 8761h",
     "67681f 445127e 4391f 4369e 4391f 4369e 4391f 4393e 4370f 4368e 4368f 4368e 4368f 4368e 4368f",
     "4368e 4368f 4368e 4368f 4368e 4536f 8737h 2688f 1679e 4368f 4368e 4368f 4368e 4368f 4368e",
     "4368f 4536e 5040f 3696e 5040f 3696e 5040f 3696e 5208f 3528e 5208f 3528e 5208f 3696e 5040f",
     "3696e 5040f 3696e 5208f 3528e 5208f 3528e 5208f 3528e 5208f 3696e 5040f 3696e 5040f 3696e",
     "5208f 3528e 31415f"],
    "10800"⟩,
  ⟨["Europe/Paris"], "561 0 3600 7200",
    ["-1855958961r 166144161s 2616b 4176c 4728b 3672c 5064b 3504c 5232b 3168c 6048b 3408c 5400b",
     "3624c 4704b 5544c 3192b 4200c 4536b 4368c 4368b 4704c 4032b 4536c 4200b 4704c 4200b 4704c",
     "4032b 4536c 4200b 4704c 4032b 4368c 4368b 4200c 4704b 4368c 4368b 4200c 4536b 4704c 4032b",
     "4368c 4368b 4200c 4536b 4704c 5208b 2355c 2660d 20883c 3528d 4536c 4368d 4510c 4226d 4008c",
     "267623d 4367c 4538d 4200c 4536d 4368c 4368d 4368c 4536d 4200c 4368d 4368c 4368d 4368c 4368d",
     "4368c 4368d 4536c 4368d 4368c 4368d 4368c 4368d 4368c 4368d 4368c 4368d 4368c 4368d 4536c",
     "4368d 4368c 4368d 4368c 4368d 4368c 4368d 4368c 4368d 4368c"],
    "3600 7200 3 5 0 7200 10 5 0 10800"⟩,
  ⟨["Europe/Riga"], "5794 9394 7200 10800 3600 14400",
    ["-1632008194r 3696a 4728b 1224a 61102c 449278594t 7919c 11740e 3528c 4536e 4368c 4368e 262d",
     "319654f 4391d 4369f 4391d 4369f 4391d 4393f 4370d 4368f 4368d 4368f 4368d 4368f 4368d 4368f",
     "4368d 8737c 4368d 4536c 4368d 4368c 4368d 4368c 4368d 4368c 4368d 4368c 4368d 4368c 4536d",
     "4368c 4369d 5040c 3696d 5040c 3696d 5208c 12264d"],
    "7200 10800 3 5 0 10800 10 5 0 14400"⟩,
  ⟨["Europe/Rome Europe/San_Marino Europe/Vatican"], "2996 3600 7200",
    ["-667657b 198000c 2855b 4369c 4391b 3841c 5063b 3505c 5207b 4033c 4367b 173017c 20882b 3528c",
     "4536b 4368c 4008b 4728c 3982b 4394c 4872b 3862c 4872b 3530c 5208b 154558c 3023b 5881c 2856b",
     "5880c 2856b 6048c 2856b 5880c 2856b 5712c 3024b 5880c 3024b 5880c 2856b 5712c 3024b 5880c",
     "2856b 5880c 2856b 5712c 3024b 5880c 3024b 5712c 3024b 4538c 4200b 4368c 4368b 4368c 4368b",
     "4368c 4368b 4368c 4536b 4368c 4368b 4368c 4368b 4368c 4368b 4368c 4368b 4368c 4368b 4368c",
     "4536b 4368c 4368b 4368c 4368b 4368c 4368b 4368c 4368b 4368c 4368b"],
    "3600 7200 3 5 0 7200 10 5 0 10800"⟩,
  ⟨["Europe/Samara"], "12020 10800 14400 18000",
    ["-442728b 96189c 445127d 4391c 4369d 4391c 4369d 4391c 4393d 4370c 4368d 4368c 4368d 4368c",
     "4368d 4368c 4368d 4368c 8737b 4368c 4536b 9241c 3862d 4368c 4368d 4368c 4368d 4368c 4368d",
     "4368c 4536d 5040c 3696d 5040c 3696d 5040c 3696d 5208c 3528d 5208c 3528d 5208c 3696d 5040c",
     "3696d 5040c 3696d 5208c 3528d 5208c 3528d 5208c 3528d 5208c 3696d 5040c 3696d 5040c 8905b",
     "3528c"],
    "14400"⟩,
  ⟨["Europe/Sarajevo"], "4420 3600 7200",
    ["-2713914820r 1808090020s 13491b 3528c 4536b 4368c 4368b 4368c 4008b 328944c 4368b 4368c",
     "4536b 4368c 4368b 4368c 4368b 4368c 4368b 4368c 4368b 4368c 4368b 4368c 4536b 4368c 4368b",
     "4368c 4368b 4368c 4368b 4368c 4368b 4368c 4368b"],
    "3600 7200 3 5 0 7200 10 5 0 10800"⟩,
  ⟨["Europe/Saratov"], "11058 10800 14400 18000",
    ["-442728b 96189c 445127d 4391c 4369d 4391c 4369d 4391c 4393d 4370c 4368d 4368c 4368d 4368c",
     "4368d 4368c 8737b 4368c 4368b 4368c 4536b 4368c 13104b 4368c 4368b 4368c 4368b 4368c 4368b",
     "4536c 5040b 3696c 5040b 3696c 5040b 3696c 5208b 3528c 5208b 3528c 5208b 3696c 5040b 3696c",
     "5040b 3696c 5208b 3528c 5208b 3528c 5208b 3528c 5208b 3696c 5040b 3696c 5040b 3696c 5208b",
     "3528c 31415b 18481c"],
    "14400"⟩,
  ⟨["Europe/Simferopol"], "8184 8160 7200 10800 3600 14400",
    ["-2840148984r 1398988824s 3227056l 99623c 8788e 3528c 4536e 4368c 237d 324047f 4391d 4369f",
     "4391d 4369f 4391d 4393f 4370d 4368f 4368d 4368f 4368d 4368f 4368d 4368f 4368d 4368f 4368d",
     "6720c 15289d 4368c 4368d 4368c 4368d 837f 3530d 4368f 4368d 4534f 5043d 8737c 3696d 5040c",
     "3696d 5208c 3528d 5208c 3528d 5208c 3696d 5040c 3696d 5040c 3696d 5208c 3528d 5208c 3528d",
     "5208c 3528d 5208c 3696d 5040c 3696d 5040c 3696d 5208c 3528d 5208c 3528d 5208c 3696d 5040c",
     "3695f 5038d"],
    "10800"⟩,
  ⟨["Europe/Skopje"], "5144 3600 7200",
    ["-2713915544r 1808090744s 13491b 3528c 4536b 4368c 4368b 4368c 4008b 328944c 4368b 4368c",
     "4536b 4368c 4368b 4368c 4368b 4368c 4368b 4368c 4368b 4368c 4368b 4368c 4536b 4368c 4368b",
     "4368c 4368b 4368c 4368b 4368c 4368b 4368c 4368b"],
    "3600 7200 3 5 0 7200 10 5 0 10800"⟩,
  ⟨["Europe/Sofia"], "5596 7016 7200 3600 10800",
    ["-2840146396r 470619380s 1512269816t 3528c 4536d 4368c 4368d 4369c 298003e 4393c 4511e 4225c",
     "4511e 4202c 4534e 4203c 4368e 4368c 4368e 4536c 4368e 4368c 4368e 4368c 4368e 4368c 4368e",
     "4368c 4368e 4368c 4368e 4536c 4366e 4367c 4369e 4367c 4369e 4367c 4369e 4367c 4369e 4367c",
     "4537e 5039c"],
    "7200 10800 3 5 0 10800 10 5 0 14400"⟩,
  ⟨["Europe/Stockholm"], "4332 3614 3600 7200",
    ["-2871681132r 662688718s 516495614t 3337c 556754d 4200c 4368d 4368c 4368d 4368c 4368d 4368c",
     "4368d 4536c 4368d 4368c 4368d 4368c 4368d 4368c 4368d 4368c 4368d 4368c 4368d 4536c 4368d",
     "4368c 4368d 4368c 4368d 4368c 4368d 4368c 4368d 4368c"],
    "3600 7200 3 5 0 7200 10 5 0 10800"⟩,
  ⟨["Europe/Tallinn"], "5940 3600 7200 10800 14400",
    ["-27305379j 105279k 3696b 6910a 964761k 10133259l 9719c 9916b 3528c 4536b 4368c 4125d 320159e",
     "4391d 4369e 4391d 4369e 4391d 4393e 4370d 4368e 4368d 4368e 4368d 4368e 4368d 4368e 4368d",
     "8737c 4368d 4536c 4368d 4368c 4368d 4368c 4368d 4368c 4368d 4368c 4368d 4368c 4536d 5040c",
     "3696d 5040c 3696d 5041c 3696d 5208c 21168d"],
    "7200 10800 3 5 0 10800 10 5 0 14400"⟩,
  ⟨["Europe/Tirane"], "4760 3600 7200",
    ["-1767230360r 834884360s 20858b 3528c 288b 272326c 3623b 5065c 3695b 5113c 3695b 5209c 3527b",
     "5185c 3551b 5185c 3551b 5185c 3695b 4897c 3695b 5209c 3695b 4729c 3983b 4393c 4370b 4368c",
     "4368b 4368c 4368b 4368c 4368b 4368c 4368b 4368c 4368b 4368c 4536b 4368c 4368b 4368c 4368b",
     "4368c 4368b 4368c 4368b 4368c 4368b"],
    "3600 7200 3 5 0 7200 10 5 0 10800"⟩,
  ⟨["Europe/Ulyanovsk"], "11616 10800 14400 18000 7200",
    ["-442728b 96189c 445127d 4391c 4369d 4391c 4369d 4391c 4393d 4370c 4368d 4368c 4368d 4368c",
     "4368d 4368c 4368d 4368c 8737b 4368c 4536b 8737e 2688b 1679c 4368b 4368c 4368b 4368c 4368b",
     "4368c 4368b 4536c 5040b 3696c 5040b 3696c 5040b 3696c 5208b 3528c 5208b 3528c 5208b 3696c",
     "5040b 3696c 5040b 3696c 5208b 3528c 5208b 3528c 5208b 3528c 5208b 3696c 5040b 3696c 5040b",
     "3696c 5208b 3528c 31415b 12433c"],
    "14400"⟩,
  ⟨["Europe/Vaduz"], "2284 3600 7200",
    ["-2385247084r 1480811884s 3696b 5040c 3696b 337321c 4368b 4368c 4368b 4368c 4368b 4368c 4536b",
     "4368c 4368b 4368c 4368b 4368c 4368b 4368c 4368b 4368c 4368b 4368c 4536b 4368c 4368b 4368c",
     "4368b 4368c 4368b 4368c 4368b 4368c 4368b"],
    "3600 7200 3 5 0 7200 10 5 0 10800"⟩,
  ⟨["Europe/Vienna"], "3921 3600 7200",
    ["-2422055121r 728348721s 3673b 4730c 3696b 5040c 3696b 13608c 3864b 171360c 22680b 3528c",
     "4536b 4368c 4368b 4368c 240b 8808c 4224b 4344c 4368b 4704c 4032b 276190c 4199b 4371c 4368b",
     "4368c 4368b 4368c 4368b 4368c 4536b 4368c 4368b 4368c 4368b 4368c 4368b 4368c 4368b 4368c",
     "4368b 4368c 4536b 4368c 4368b 4368c 4368b 4368c 4368b 4368c 4368b 4368c 4368b"],
    "3600 7200 3 5 0 7200 10 5 0 10800"⟩,
  ⟨["Europe/Vilnius"], "6076 5040 5736 3600 7200 10800 14400",
    ["-2840146876r 1167610636s 87436104t 23848536u 2135d 173713f 7798e 11908d 3528e 4536d 4368e",
     "2877f 321407g 4391f 4369g 4391f 4369g 4391f 4393g 4370f 4368g 4368f 4368g 4368f 4368g 4368f",
     "4368g 4368f 8737e 4368f 4536e 4368f 4368e 4368f 4368e 4368f 4368e 4368f 4368e 4368f 4368e",
     "4536f 5040e 3696f 5040e 8737d 3696e 35112f"],
    "7200 10800 3 5 0 10800 10 5 0 14400"⟩,
  ⟨["Europe/Volgograd"], "10660 10800 14400 18000",
    ["-1577761060r 330220660s 445127d 4391c 4369d 4391c 4369d 4391c 4393d 4370c 4368d 4368c 4368d",
     "4368c 4368d 4368c 8737b 4368c 4368b 4368c 4536b 4368c 13104b 4368c 4368b 4368c 4368b 4368c",
     "4368b 4536c 5040b 3696c 5040b 3696c 5040b 3696c 5208b 3528c 5208b 3528c 5208b 3696c 5040b",
     "3696c 5040b 3696c 5208b 3528c 5208b 3528c 5208b 3528c 5208b 3696c 5040b 3696c 5040b 3696c",
     "5208b 3528c 31415b 35113c 18983b"],
    "10800"⟩,
  ⟨["Europe/Warsaw Poland"], "5040 3600 7200 10800",
    ["-28617204j 388764k 3673b 4730c 3696b 5040c 8759d 3696c 23734b 158331c 20688b 3528c 4536b",
     "4368c 4415b 4967c 4463b 3937c 4226b 5016c 3696b 4704c 4032b 4536c 4200b 67199c 2856b 4368c",
     "4368b 5880c 3024b 4368c 4368b 5712c 3024b 5712c 3024b 5712c 3024b 5880c 2856b 109704c 4200b",
     "4536c 4368b 4368c 4368b 4536c 4200b 4368c 4368b 4368c 4368b 4368c 4368b 4368c 4536b 4368c",
     "4368b 4368c 4368b 4368c 4368b 4369c 4368b 4368c 4368b 4368c 4536b 4368c 4368b 4368c 4368b",
     "4368c 4368b 4368c 4368b 4368c 4368b"],
    "3600 7200 3 5 0 7200 10 5 0 10800"⟩,
  ⟨["Europe/Zagreb"], "3832 3600 7200",
    ["-2713914232r 1808089432s 13491b 3528c 4536b 4368c 4368b 4368c 4008b 328944c 4368b 4368c",
     "4536b 4368c 4368b 4368c 4368b 4368c 4368b 4368c 4368b 4368c 4368b 4368c 4536b 4368c 4368b",
     "4368c 4368b 4368c 4368b 4368c 4368b 4368c 4368b"],
    "3600 7200 3 5 0 7200 10 5 0 10800"⟩,
  ⟨["Factory"], "",
    [],
    "0"⟩,
  ⟨["HST"], "",
    [],
    "-36000"⟩,
  ⟨["Indian/Antananarivo"], "11404 10800 14400",
    ["-1846293004r 1346368204s 2184b"],
    "10800"⟩,
  ⟨["Indian/Chagos"], "17380 18000 21600",
    ["-1988167780r 2808604180s"],
    "21600"⟩,
  ⟨["Indian/Christmas"], "25372 25200",
    ["-2364102172r"],
    "25200"⟩,
  ⟨["Indian/Cocos"], "23260 23400",
    ["-2209012060r"],
    "23400"⟩,
  ⟨["Indian/Comoro"], "10384 10800",
    ["-1846291984r"],
    "10800"⟩,
  ⟨["Indian/Kerguelen"], "0 18000",
    ["-175320b"],
    "18000"⟩,
  ⟨["Indian/Mahe"], "13308 14400",
    ["-1988163708r"],
    "14400"⟩,
  ⟨["Indian/Maldives"], "17640 18000",
    ["-5260614j"],
    "18000"⟩,
  ⟨["Indian/Mauritius"], "13800 14400 18000",
    ["-33136070j 39853430k 3887b 224427c 3695b"],
    "14400"⟩,
  ⟨["Indian/Mayotte"], "10856 10800",
    ["-1846292456r"],
    "10800"⟩,
  ⟨["Indian/Reunion"], "13312 14400",
    ["-1848886912r"],
    "14400"⟩,
  ⟨["Kwajalein Pacific/Kwajalein"], "40160 39600 36000 32400 -43200 43200",
    ["-2177492960r 1136074160s 37225d 24985b 224854e 209423f"],
    "43200"⟩,
  ⟨["MET"], "3600 7200",
    ["-470474b 3673a 4730b 3696a 5040b 3696a 188832b 22680a 3528b 4536a 4368b 4368a 4368b 4008a",
     "276528b 4200a 4536b 4368a 4368b 4368a 4536b 4200a 4368b 4368a 4368b 4368a 4368b 4368a 4368b",
     "4536a 4368b 4368a 4368b 4368a 4368b 4368a 4368b 4368a 4368b 4368a 4368b 4536a 4368b 4368a",
     "4368b 4368a 4368b 4368a 4368b 4368a 4368b 4368a"],
    "3600 7200 3 5 0 7200 10 5 0 10800"⟩,
  ⟨["MST"], "",
    [],
    "-25200"⟩,
  ⟨["MST7MDT"], "-25200 -21600",
    ["-453687b 5039a 3697b 5039a 195409b 31895a 189169b 4367a 4369b 4367a 4369b 4367a 4369b 4367a",
     "4369b 4535a 4369b 4367a 4369b 4367a 1681b 7055a 2857b 5879a 4369b 4535a 4201b 4535a 4369b",
     "4367a 4369b 4367a 4369b 4367a 4369b 4367a 4369b 4535a 4201b 4535a 4369b 4367a 4369b 4367a",
     "4369b 4367a 3865b 4871a 3865b 5039a 3697b 5039a 3697b 5039a 3865b 4871a 3865b 4871a 3865b",
     "5039a 3697b 5039a 3697b 5039a 3865b 4871a 3865b 4871a 3865b 4871a 3865b 5039a 3697b 5039a",
     "3697b 5039a 3865b 4871a 3865b 4871a 3865b 5039a 3697b 5039a 3697b 5039a"],
    "-25200 -21600 3 2 0 7200 11 1 0 7200"⟩,
  ⟨["NZ Pacific/Auckland"], "41944 41400 45000 43200 46800",
    ["-3192435544r 1862100544s 2855b 5377d 221730j 302430l 221730j 302430l 221730j 302430l 231810j",
     "292350l 231810j 292350l 292290j 221790l 302370j 221790l 302370j 221790l 302370j 221790l",
     "302370j 221790l 312450j 211710l 312450j 221790l 17932290m 2688d 5880e 3192d 5712e 3024d",
     "5712e 3024d 5712e 3024d 5712e 3024d 5712e 3024d 5712e 3192d 5712e 3024d 5712e 3024d 5712e",
     "3024d 5712e 3024d 5712e 3024d 5712e 3192d 5712e 3024d 5208e 3864d 4872e 3864d 4872e 3864d",
     "4872e 4032d 4704e 4032d 4704e 4032d 4704e 4032d 4872e 3864d 4872e 3864d 4872e 4032d 4704e",
     "4032d 4704e 4032d 4872e 3864d 4872e 3864d 4872e 4032d 4704e 4032d 4704e 4032d 4704e 4032d"],
    "43200 46800 9 5 0 7200 4 1 0 10800"⟩,
  ⟨["NZ-CHAT Pacific/Chatham"], "44028 44100 45900 49500",
    ["-3192437628r 2435011128s 15167655l 2688c 5880d 3192c 5712d 3024c 5712d 3024c 5712d 3024c",
     "5712d 3024c 5712d 3024c 5712d 3192c 5712d 3024c 5712d 3024c 5712d 3024c 5712d 3024c 5712d",
     "3024c 5712d 3192c 5712d 3024c 5208d 3864c 4872d 3864c 4872d 3864c 4872d 4032c 4704d 4032c",
     "4704d 4032c 4704d 4032c 4872d 3864c 4872d 3864c 4872d 4032c 4704d 4032c 4704d 4032c 4872d",
     "3864c 4872d 3864c 4872d 4032c 4704d 4032c 4704d 4032c 4704d 4032c"],
    "45900 49500 9 5 0 9900 4 1 0 13500"⟩,
  ⟨["PST8PDT"], "-28800 -25200",
    ["-453686b 5039a 3697b 5039a 195409b 31895a 189169b 4367a 4369b 4367a 4369b 4367a 4369b 4367a",
     "4369b 4535a 4369b 4367a 4369b 4367a 1681b 7055a 2857b 5879a 4369b 4535a 4201b 4535a 4369b",
     "4367a 4369b 4367a 4369b 4367a 4369b 4367a 4369b 4535a 4201b 4535a 4369b 4367a 4369b 4367a",
     "4369b 4367a 3865b 4871a 3865b 5039a 3697b 5039a 3697b 5039a 3865b 4871a 3865b 4871a 3865b",
     "5039a 3697b 5039a 3697b 5039a 3865b 4871a 3865b 4871a 3865b 4871a 3865b 5039a 3697b 5039a",
     "3697b 5039a 3865b 4871a 3865b 4871a 3865b 5039a 3697b 5039a 3697b 5039a"],
    "-28800 -25200 3 2 0 7200 11 1 0 7200"⟩,
  ⟨["Pacific/Apia"], "45184 -41216 -41400 -39600 -36000 50400 46800",
    ["-2445424384r 162096c 1230768184t 31943490m 4515d 4200e 2324f 2212g 4368f 4536g 4200f 4536g",
     "4200f 4536g 4200f 4536g 4200f 4536g 4200f 4536g 4368f 4536g 4200f 4536g 4200f 4536g"],
    "46800"⟩,
  ⟨["Pacific/Bougainville"], "37336 35312 36000 32400 39600",
    ["-2840178136r 473387624s 1498780112t 27529c 607945e"],
    "39600"⟩,
  ⟨["Pacific/Chuuk Pacific/Truk Pacific/Yap"], "-49972 36428 36000 32400",
    ["-3944628428r 490872c 433814828t 38017c 194279d 37993c"],
    "36000"⟩,
  ⟨["Pacific/Efate"], "40396 39600 43200",
    ["-1829387596r 1954797196s 2352b 83161c 4367b 4369c 4367b 4537c 4199b 4537c 4367b 4369c 4367b",
     "4369c 4367b 4369c 4367b 4369c 4367b 4537c 2855b 6553c 2183b"],
    "39600"⟩,
  ⟨["Pacific/Enderbury Pacific/Kanton"], "0 -43200 -39600 46800",
    ["-283464b 368916c 133679d"],
    "46800"⟩,
  ⟨["Pacific/Fakaofo"], "-41096 -39600 46800",
    ["-2177411704r 3502654504s"],
    "46800"⟩,
  ⟨["Pacific/Fiji"], "42944 43200 46800",
    ["-1709985344r 2619827744s 2856b 6048c 2688b 85512c 2856b 5040c 3192b 5544c 2184b 6552c 2184b",
     "6720c 2015b 6889c 1848b 6888c 1848b 7056c 1680b 7056c 1680b 7056c 1680b 7224c 1512b 8232c",
     "672b"],
    "43200"⟩,
  ⟨["Pacific/Funafuti"], "43012 43200",
    ["-2177495812r"],
    "43200"⟩,
  ⟨["Pacific/Galapagos"], "-21504 -18000 -21600",
    ["-1230746496r 1735686096s 60553b 1655c"],
    "-21600"⟩,
  ⟨["Pacific/Gambier"], "-32388 -32400",
    ["-1806678012r"],
    "-32400"⟩,
  ⟨["Pacific/Guadalcanal"], "38388 39600",
    ["-1806748788r"],
    "39600"⟩,
  ⟨["Pacific/Guam"], "-51660 34740 36000 32400 39600",
    ["-65743779j 490872c 21532299l 23137c 130657e 13967c 57745e 738541k 211859m 1679c 5713e 3191c",
     "5545e 3191c 19993e 1679c 19729e 126661k 352859m 3023c"],
    "36000"⟩,
  ⟨["Pacific/Honolulu Pacific/Johnston US/Hawaii"], "-37886 -37800 -34200 -36000",
    ["-2334101314r 1176818314s 513b 76455c 31895b 14785d"],
    "-36000"⟩,
  ⟨["Pacific/Kiritimati"], "-37760 -38400 -36000 50400",
    ["-2177415040r 2485037440s 8020760l"],
    "50400"⟩,
  ⟨["Pacific/Kosrae"], "-47284 39116 39600 32400 36000 43200",
    ["-3944631116r 490872c 433813916t 38018c 157054e 37225d 37993c 211846f 256415c"],
    "39600"⟩,
  ⟨["Pacific/Majuro"], "41088 39600 32400 36000 43200",
    ["-2177493888r 433815888s 38018b 157054d 37225c 24817b 225022e"],
    "43200"⟩,
  ⟨["Pacific/Marquesas"], "-33480 -34200",
    ["-30111282j"],
    "-34200"⟩,
  ⟨["Pacific/Midway"], "-42568 -39600 -36000",
    ["-2177410232r 1748905832s 2183b"],
    "-39600"⟩,
  ⟨["Pacific/Nauru"], "40060 41400 32400 43200",
    ["-1545131260r 682213060s 1592790j 17579490l"],
    "43200"⟩,
  ⟨["Pacific/Niue"], "-40780 -40800 -39600",
    ["-543069620r 369446420s"],
    "-39600"⟩,
  ⟨["Pacific/Norfolk"], "40312 40320 41400 45000 39600 43200",
    ["-2177493112r 1577836792s 12528102l 3024c 355824e 2106750n"],
    "39600 43200 10 1 0 7200 4 1 0 10800"⟩,
  ⟨["Pacific/Noumea"], "39948 39600 43200",
    ["-1829387148r 2079389148s 2039b 6697c 2063b 155691c 2184b"],
    "39600"⟩,
  ⟨["Pacific/Pago_Pago Pacific/Samoa US/Samoa"], "45432 -40968 -39600",
    ["-2445424632r 162096c"],
    "-39600"⟩,
  ⟨["Pacific/Palau"], "-54124 32276 32400",
    ["-3944624276r 490872c"],
    "32400"⟩,
  ⟨["Pacific/Pitcairn"], "-31220 -30600 -28800",
    ["-2177421580r 3071087380s"],
    "-28800"⟩,
  ⟨["Pacific/Pohnpei Pacific/Ponape"], "-48428 37972 39600 32400 36000",
    ["-3944629972r 490872c 433812772t 38018c 157054e 37225d 37993c"],
    "39600"⟩,
  ⟨["Pacific/Port_Moresby"], "35320 35312 36000",
    ["-2840176120r 473385608s"],
    "36000"⟩,
  ⟨["Pacific/Rarotonga"], "48056 -38344 -37800 -34200 -36000",
    ["-2209555256r 462912c 822786656t 2687e 342750l 181410m 342750l 181410m 342750l 191490m",
     "342750l 181410m 342750l 181410m 342750l 181410m 342750l 181410m 342750l 181410m 342750l",
     "191490m 342750l 181410m 342750l 181410m 342750l 181410m"],
    "-36000"⟩,
  ⟨["Pacific/Saipan"], "-51420 34980 32400 36000 39600",
    ["-65743783j 490872c 22888843l 131185e 13967d 57745e 738541l 211859m 1679d 5713e 3191d 5545e",
     "3191d 19993e 1679d 19729e 126661l 352859m 3023d"],
    "36000"⟩,
  ⟨["Pacific/Tahiti"], "-35896 -36000",
    ["-1806674504r"],
    "-36000"⟩,
  ⟨["Pacific/Tarawa"], "41524 43200",
    ["-2177494324r"],
    "43200"⟩,
  ⟨["Pacific/Tongatapu"], "44352 44400 46800 50400",
    ["-767189952r 483148752s 20387600l 3936c 5544d 2015c 6721d 2015c 129529d 1680c"],
    "46800"⟩,
  ⟨["Pacific/Wake"], "39988 43200",
    ["-2177492788r"],
    "43200"⟩,
  ⟨["Pacific/Wallis"], "44120 43200",
    ["-2177496920r"],
    "43200"⟩,
  ⟨["WET"], "0 3600",
    ["63577b 4200a 4536b 4368a 4368b 4368a 4536b 4200a 4368b 4368a 4368b 4368a 4368b 4368a 4368b",
     "4536a 4368b 4368a 4368b 4368a 4368b 4368a 4368b 4368a 4368b 4368a 4368b 4536a 4368b 4368a",
     "4368b 4368a 4368b 4368a 4368b 4368a 4368b 4368a"],
    "0 3600 3 5 0 3600 10 5 0 7200"⟩]

end Condition

end Remediation

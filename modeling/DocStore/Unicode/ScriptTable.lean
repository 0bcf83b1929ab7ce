/-!
The script of every code point, as runs of code points from zero upwards: the four letters of a
script and the length of its run. The names of a script are in lower case without separators.
-/
namespace DocStore.Unicode

def scriptRuns : String :=
  "Zyyy65Latn26Zyyy6Latn26Zyyy47Latn1Zyyy15Latn1Zyyy5Latn23Zyyy1Latn31Zyyy1Latn449Zyyy39" ++
  "Latn5Zyyy5Bopo2Zyyy20Zinh112Grek4Zyyy1Grek3Zzzz2Grek4Zyyy1Grek1Zzzz4Grek1Zyyy1Grek1Zyyy1" ++
  "Grek3Zzzz1Grek1Zzzz1Grek20Zzzz1Grek63Copt14Grek16Cyrl133Zinh2Cyrl169Zzzz1Armn38Zzzz2" ++
  "Armn50Zzzz2Armn3Zzzz1Hebr55Zzzz8Hebr27Zzzz4Hebr6Zzzz11Arab5Zyyy1Arab6Zyyy1Arab14Zyyy1" ++
  "Arab3Zyyy1Arab32Zyyy1Arab10Zinh11Arab26Zinh1Arab108Zyyy1Arab34Syrc14Zzzz1Syrc60Zzzz2Syrc3" ++
  "Arab48Thaa50Zzzz14Nkoo59Zzzz2Nkoo3Samr46Zzzz2Samr15Zzzz1Mand28Zzzz2Mand1Zzzz1Syrc11Zzzz5" ++
  "Arab31Zzzz1Arab2Zzzz6Arab74Zyyy1Arab29Deva81Zinh4Deva15Zyyy2Deva26Beng4Zzzz1Beng8Zzzz2" ++
  "Beng2Zzzz2Beng22Zzzz1Beng7Zzzz1Beng1Zzzz3Beng4Zzzz2Beng9Zzzz2Beng2Zzzz2Beng4Zzzz8Beng1" ++
  "Zzzz4Beng2Zzzz1Beng5Zzzz2Beng25Zzzz2Guru3Zzzz1Guru6Zzzz4Guru2Zzzz2Guru22Zzzz1Guru7Zzzz1" ++
  "Guru2Zzzz1Guru2Zzzz1Guru2Zzzz2Guru1Zzzz1Guru5Zzzz4Guru2Zzzz2Guru3Zzzz3Guru1Zzzz7Guru4" ++
  "Zzzz1Guru1Zzzz7Guru17Zzzz10Gujr3Zzzz1Gujr9Zzzz1Gujr3Zzzz1Gujr22Zzzz1Gujr7Zzzz1Gujr2Zzzz1" ++
  "Gujr5Zzzz2Gujr10Zzzz1Gujr3Zzzz1Gujr3Zzzz2Gujr1Zzzz15Gujr4Zzzz2Gujr12Zzzz7Gujr7Zzzz1Orya3" ++
  "Zzzz1Orya8Zzzz2Orya2Zzzz2Orya22Zzzz1Orya7Zzzz1Orya2Zzzz1Orya5Zzzz2Orya9Zzzz2Orya2Zzzz2" ++
  "Orya3Zzzz7Orya3Zzzz4Orya2Zzzz1Orya5Zzzz2Orya18Zzzz10Taml2Zzzz1Taml6Zzzz3Taml3Zzzz1Taml4" ++
  "Zzzz3Taml2Zzzz1Taml1Zzzz1Taml2Zzzz3Taml2Zzzz3Taml3Zzzz3Taml12Zzzz4Taml5Zzzz3Taml3Zzzz1" ++
  "Taml4Zzzz2Taml1Zzzz6Taml1Zzzz14Taml21Zzzz5Telu13Zzzz1Telu3Zzzz1Telu23Zzzz1Telu16Zzzz2" ++
  "Telu9Zzzz1Telu3Zzzz1Telu4Zzzz7Telu2Zzzz1Telu3Zzzz2Telu1Zzzz2Telu4Zzzz2Telu10Zzzz7Telu9" ++
  "Knda13Zzzz1Knda3Zzzz1Knda23Zzzz1Knda10Zzzz1Knda5Zzzz2Knda9Zzzz1Knda3Zzzz1Knda4Zzzz7Knda2" ++
  "Zzzz6Knda2Zzzz1Knda4Zzzz2Knda10Zzzz1Knda3Zzzz12Mlym13Zzzz1Mlym3Zzzz1Mlym51Zzzz1Mlym3Zzzz1" ++
  "Mlym6Zzzz4Mlym16Zzzz2Mlym26Zzzz1Sinh3Zzzz1Sinh18Zzzz3Sinh24Zzzz1Sinh9Zzzz1Sinh1Zzzz2Sinh7" ++
  "Zzzz3Sinh1Zzzz4Sinh6Zzzz1Sinh1Zzzz1Sinh8Zzzz6Sinh10Zzzz2Sinh3Zzzz12Thai58Zzzz4Zyyy1Thai28" ++
  "Zzzz37Laoo2Zzzz1Laoo1Zzzz1Laoo5Zzzz1Laoo24Zzzz1Laoo1Zzzz1Laoo23Zzzz2Laoo5Zzzz1Laoo1Zzzz1" ++
  "Laoo7Zzzz1Laoo10Zzzz2Laoo4Zzzz32Tibt72Zzzz1Tibt36Zzzz4Tibt39Zzzz1Tibt36Zzzz1Tibt15Zzzz1" ++
  "Tibt7Zyyy4Tibt2Zzzz37Mymr160Geor38Zzzz1Geor1Zzzz5Geor1Zzzz2Geor43Zyyy1Geor4Hang256Ethi73" ++
  "Zzzz1Ethi4Zzzz2Ethi7Zzzz1Ethi1Zzzz1Ethi4Zzzz2Ethi41Zzzz1Ethi4Zzzz2Ethi33Zzzz1Ethi4Zzzz2" ++
  "Ethi7Zzzz1Ethi1Zzzz1Ethi4Zzzz2Ethi15Zzzz1Ethi57Zzzz1Ethi4Zzzz2Ethi67Zzzz2Ethi32Zzzz3" ++
  "Ethi26Zzzz6Cher86Zzzz2Cher6Zzzz2Cans640Ogam29Zzzz3Runr75Zyyy3Runr11Zzzz7Tglg22Zzzz9Tglg1" ++
  "Hano21Zyyy2Zzzz9Buhd20Zzzz12Tagb13Zzzz1Tagb3Zzzz1Tagb2Zzzz12Khmr94Zzzz2Khmr10Zzzz6Khmr10" ++
  "Zzzz6Mong2Zyyy2Mong1Zyyy1Mong20Zzzz6Mong89Zzzz7Mong43Zzzz5Cans70Zzzz10Limb31Zzzz1Limb12" ++
  "Zzzz4Limb12Zzzz4Limb1Zzzz3Limb12Tale30Zzzz2Tale5Zzzz11Talu44Zzzz4Talu26Zzzz6Talu11Zzzz3" ++
  "Talu2Khmr32Bugi28Zzzz2Bugi2Lana63Zzzz1Lana29Zzzz2Lana11Zzzz6Lana10Zzzz6Lana14Zzzz2Zinh31" ++
  "Zzzz49Bali77Zzzz3Bali47Zzzz1Sund64Batk52Zzzz8Batk4Lepc56Zzzz3Lepc15Zzzz3Lepc3Olck48Cyrl9" ++
  "Zzzz7Geor43Zzzz2Geor3Sund8Zzzz8Zinh3Zyyy1Zinh13Zyyy1Zinh7Zyyy4Zinh1Zyyy6Zinh1Zyyy3Zinh2" ++
  "Zyyy1Zzzz5Latn38Grek5Cyrl1Latn49Grek5Latn4Grek5Latn13Cyrl1Latn70Grek1Zinh64Latn256Grek22" ++
  "Zzzz2Grek6Zzzz2Grek38Zzzz2Grek6Zzzz2Grek8Zzzz1Grek1Zzzz1Grek1Zzzz1Grek1Zzzz1Grek31Zzzz2" ++
  "Grek53Zzzz1Grek15Zzzz1Grek14Zzzz2Grek6Zzzz1Grek19Zzzz2Grek3Zzzz1Grek9Zzzz1Zyyy12Zinh2" ++
  "Zyyy87Zzzz1Zyyy11Latn1Zzzz2Zyyy11Latn1Zyyy15Zzzz1Latn13Zzzz3Zyyy33Zzzz15Zinh33Zzzz15" ++
  "Zyyy38Grek1Zyyy3Latn2Zyyy6Latn1Zyyy27Latn1Zyyy17Latn41Zyyy3Zzzz4Zyyy663Zzzz25Zyyy11Zzzz21" ++
  "Zyyy928Brai256Zyyy628Zzzz2Zyyy32Zzzz1Zyyy105Glag96Latn32Copt116Zzzz5Copt7Geor38Zzzz1Geor1" ++
  "Zzzz5Geor1Zzzz2Tfng56Zzzz7Tfng2Zzzz14Tfng1Ethi23Zzzz9Ethi7Zzzz1Ethi7Zzzz1Ethi7Zzzz1Ethi7" ++
  "Zzzz1Ethi7Zzzz1Ethi7Zzzz1Ethi7Zzzz1Ethi7Zzzz1Cyrl32Zyyy94Zzzz34Hani26Zzzz1Hani89Zzzz12" ++
  "Hani214Zzzz26Zyyy12Zzzz4Zyyy5Hani1Zyyy1Hani1Zyyy25Hani9Zinh4Hang2Zyyy8Hani4Zyyy4Zzzz1" ++
  "Hira86Zzzz2Zinh2Zyyy2Hira3Zyyy1Kana90Zyyy2Kana3Zzzz5Bopo43Zzzz1Hang94Zzzz1Zyyy16Bopo32" ++
  "Zyyy36Zzzz12Kana16Hang31Zzzz1Zyyy64Hang31Zyyy81Kana47Zyyy1Kana88Zyyy168Hani6592Zyyy64" ++
  "Hani20992Yiii1165Zzzz3Yiii55Zzzz9Lisu48Vaii300Zzzz20Cyrl96Bamu88Zzzz8Zyyy34Latn102Zyyy3" ++
  "Latn64Zzzz5Latn2Zzzz1Latn1Zzzz1Latn5Zzzz24Latn14Sylo45Zzzz3Zyyy10Zzzz6Phag56Zzzz8Saur70" ++
  "Zzzz8Saur12Zzzz6Deva32Kali46Zyyy1Kali1Rjng36Zzzz11Rjng1Hang29Zzzz3Java78Zzzz1Zyyy1Java10" ++
  "Zzzz4Java2Mymr31Zzzz1Cham55Zzzz9Cham14Zzzz2Cham10Zzzz2Cham4Mymr32Tavt67Zzzz24Tavt5Mtei23" ++
  "Zzzz10Ethi6Zzzz2Ethi6Zzzz2Ethi6Zzzz9Ethi7Zzzz1Ethi7Zzzz1Latn43Zyyy1Latn9Grek1Latn4Zyyy2" ++
  "Zzzz4Cher80Mtei46Zzzz2Mtei10Zzzz6Hang11172Zzzz12Hang23Zzzz4Hang49Zzzz8452Hani366Zzzz2" ++
  "Hani106Zzzz38Latn7Zzzz12Armn5Zzzz5Hebr26Zzzz1Hebr5Zzzz1Hebr1Zzzz1Hebr2Zzzz1Hebr2Zzzz1" ++
  "Hebr10Arab115Zzzz16Arab363Zyyy2Arab80Zzzz2Arab54Zzzz7Arab1Zzzz32Arab16Zinh16Zyyy10Zzzz6" ++
  "Zinh14Cyrl2Zyyy35Zzzz1Zyyy19Zzzz1Zyyy4Zzzz4Arab5Zzzz1Arab135Zzzz2Zyyy1Zzzz1Zyyy32Latn26" ++
  "Zyyy6Latn26Zyyy11Kana10Zyyy1Kana45Zyyy2Hang31Zzzz3Hang6Zzzz2Hang6Zzzz2Hang6Zzzz2Hang3" ++
  "Zzzz3Zyyy7Zzzz1Zyyy7Zzzz10Zyyy5Zzzz2Linb12Zzzz1Linb26Zzzz1Linb19Zzzz1Linb2Zzzz1Linb15" ++
  "Zzzz2Linb14Zzzz34Linb123Zzzz5Zyyy3Zzzz4Zyyy45Zzzz3Zyyy9Grek79Zzzz1Zyyy13Zzzz3Grek1Zzzz47" ++
  "Zyyy45Zinh1Zzzz130Lyci29Zzzz3Cari49Zzzz15Zinh1Zyyy27Zzzz4Ital36Zzzz9Ital3Goth27Zzzz5" ++
  "Perm43Zzzz5Ugar30Zzzz1Ugar1Xpeo36Zzzz4Xpeo14Zzzz42Dsrt80Shaw48Osma30Zzzz2Osma10Zzzz6" ++
  "Osge36Zzzz4Osge36Zzzz4Elba40Zzzz8Aghb52Zzzz11Aghb1Vith11Zzzz1Vith15Zzzz1Vith7Zzzz1Vith2" ++
  "Zzzz1Vith11Zzzz1Vith15Zzzz1Vith7Zzzz1Vith2Zzzz67Lina311Zzzz9Lina22Zzzz10Lina8Zzzz24Latn6" ++
  "Zzzz1Latn42Zzzz1Latn9Zzzz69Cprt6Zzzz2Cprt1Zzzz1Cprt44Zzzz1Cprt2Zzzz3Cprt1Zzzz2Cprt1Armi22" ++
  "Zzzz1Armi9Palm32Nbat31Zzzz8Nbat9Zzzz48Hatr19Zzzz1Hatr2Zzzz5Hatr5Phnx28Zzzz3Phnx1Lydi26" ++
  "Zzzz5Lydi1Zzzz64Mero32Merc24Zzzz4Merc20Zzzz2Merc46Khar4Zzzz1Khar2Zzzz5Khar8Zzzz1Khar3" ++
  "Zzzz1Khar29Zzzz2Khar3Zzzz4Khar10Zzzz7Khar9Zzzz7Sarb32Narb32Zzzz32Mani39Zzzz4Mani12Zzzz9" ++
  "Avst54Zzzz3Avst7Prti22Zzzz2Prti8Phli19Zzzz5Phli8Phlp18Zzzz7Phlp4Zzzz12Phlp7Zzzz80Orkh73" ++
  "Zzzz55Hung51Zzzz13Hung51Zzzz7Hung6Rohg40Zzzz8Rohg10Zzzz294Arab31Zzzz1Yezi42Zzzz1Yezi3" ++
  "Zzzz2Yezi2Zzzz75Arab3Sogo40Zzzz8Sogd42Zzzz22Ougr26Zzzz38Chrs28Zzzz20Elym23Zzzz9Brah78" ++
  "Zzzz4Brah36Zzzz9Brah1Kthi67Zzzz10Kthi1Zzzz2Sora25Zzzz7Sora10Zzzz6Cakm53Zzzz1Cakm18Zzzz8" ++
  "Mahj39Zzzz9Shrd96Zzzz1Sinh20Zzzz11Khoj18Zzzz1Khoj47Zzzz62Mult7Zzzz1Mult1Zzzz1Mult4Zzzz1" ++
  "Mult15Zzzz1Mult11Zzzz6Sind59Zzzz5Sind10Zzzz6Gran4Zzzz1Gran8Zzzz2Gran2Zzzz2Gran22Zzzz1" ++
  "Gran7Zzzz1Gran2Zzzz1Gran5Zzzz1Zinh1Gran9Zzzz2Gran2Zzzz2Gran3Zzzz2Gran1Zzzz6Gran1Zzzz5" ++
  "Gran7Zzzz2Gran7Zzzz3Gran5Zzzz139Newa92Zzzz1Newa5Zzzz30Tirh72Zzzz8Tirh10Zzzz166Sidd54Zzzz2" ++
  "Sidd38Zzzz34Modi69Zzzz11Modi10Zzzz6Mong13Zzzz19Takr58Zzzz6Takr10Zzzz54Ahom27Zzzz2Ahom15" ++
  "Zzzz4Ahom23Zzzz185Dogr60Zzzz100Wara83Zzzz12Wara1Diak7Zzzz2Diak1Zzzz2Diak8Zzzz1Diak2Zzzz1" ++
  "Diak30Zzzz1Diak2Zzzz2Diak12Zzzz9Diak10Zzzz70Nand8Zzzz2Nand46Zzzz2Nand11Zzzz27Zanb72Zzzz8" ++
  "Soyo83Zzzz13Cans16Pauc57Zzzz7Deva10Zzzz246Bhks9Zzzz1Bhks45Zzzz1Bhks14Zzzz10Bhks29Zzzz3" ++
  "Marc32Zzzz2Marc22Zzzz1Marc14Zzzz73Gonm7Zzzz1Gonm2Zzzz1Gonm44Zzzz3Gonm1Zzzz1Gonm2Zzzz1" ++
  "Gonm9Zzzz8Gonm10Zzzz6Gong6Zzzz1Gong2Zzzz1Gong37Zzzz1Gong2Zzzz1Gong6Zzzz7Gong10Zzzz310" ++
  "Maka25Zzzz7Kawi17Zzzz1Kawi41Zzzz3Kawi28Zzzz86Lisu1Zzzz15Taml50Zzzz13Taml1Xsux922Zzzz102" ++
  "Xsux111Zzzz1Xsux5Zzzz11Xsux196Zzzz2636Cpmn99Zzzz13Egyp1110Zzzz4010Hluw583Zzzz8633Bamu569" ++
  "Zzzz7Mroo31Zzzz1Mroo10Zzzz4Mroo2Tnsa79Zzzz1Tnsa10Zzzz6Bass30Zzzz2Bass6Zzzz10Hmng70Zzzz10" ++
  "Hmng10Zzzz1Hmng7Zzzz1Hmng21Zzzz5Hmng19Zzzz688Medf91Zzzz101Plrd75Zzzz4Plrd57Zzzz7Plrd17" ++
  "Zzzz64Tang1Nshu1Hani2Kits1Zzzz11Hani2Zzzz14Tang6136Zzzz8Tang768Kits470Zzzz42Tang9Zzzz8935" ++
  "Kana4Zzzz1Kana7Zzzz1Kana2Zzzz1Kana1Hira287Kana3Zzzz15Hira1Zzzz29Hira3Zzzz2Kana1Zzzz14" ++
  "Kana4Zzzz8Nshu396Zzzz2308Dupl107Zzzz5Dupl13Zzzz3Dupl9Zzzz7Dupl10Zzzz2Dupl4Zyyy4Zzzz4700" ++
  "Zinh46Zzzz2Zinh23Zzzz9Zyyy116Zzzz60Zyyy246Zzzz10Zyyy39Zzzz2Zyyy62Zinh3Zyyy17Zinh8Zyyy2" ++
  "Zinh7Zyyy30Zinh4Zyyy61Zzzz21Grek70Zzzz122Zyyy20Zzzz12Zyyy20Zzzz12Zyyy87Zzzz9Zyyy25Zzzz135" ++
  "Zyyy85Zzzz1Zyyy71Zzzz1Zyyy2Zzzz2Zyyy1Zzzz2Zyyy2Zzzz2Zyyy4Zzzz1Zyyy12Zzzz1Zyyy1Zzzz1Zyyy7" ++
  "Zzzz1Zyyy65Zzzz1Zyyy4Zzzz2Zyyy8Zzzz1Zyyy7Zzzz1Zyyy28Zzzz1Zyyy4Zzzz1Zyyy5Zzzz1Zyyy1Zzzz3" ++
  "Zyyy7Zzzz1Zyyy340Zzzz2Zyyy292Zzzz2Zyyy50Sgnw652Zzzz15Sgnw5Zzzz1Sgnw15Zzzz1104Latn31Zzzz6" ++
  "Latn6Zzzz213Glag7Zzzz1Glag17Zzzz2Glag7Zzzz1Glag2Zzzz1Glag5Zzzz5Cyrl62Zzzz33Cyrl1Zzzz112" ++
  "Hmnp45Zzzz3Hmnp14Zzzz2Hmnp10Zzzz4Hmnp2Zzzz320Toto31Zzzz17Wcho58Zzzz5Wcho1Zzzz464Nagm42" ++
  "Zzzz742Ethi7Zzzz1Ethi4Zzzz1Ethi2Zzzz1Ethi15Zzzz1Mend197Zzzz2Mend16Zzzz41Adlm76Zzzz4Adlm10" ++
  "Zzzz4Adlm2Zzzz785Zyyy68Zzzz76Zyyy61Zzzz194Arab4Zzzz1Arab27Zzzz1Arab2Zzzz1Arab1Zzzz2Arab1" ++
  "Zzzz1Arab10Zzzz1Arab4Zzzz1Arab1Zzzz1Arab1Zzzz6Arab1Zzzz4Arab1Zzzz1Arab1Zzzz1Arab1Zzzz1" ++
  "Arab3Zzzz1Arab2Zzzz1Arab1Zzzz2Arab1Zzzz1Arab1Zzzz1Arab1Zzzz1Arab1Zzzz1Arab1Zzzz1Arab2" ++
  "Zzzz1Arab1Zzzz2Arab4Zzzz1Arab7Zzzz1Arab4Zzzz1Arab4Zzzz1Arab1Zzzz1Arab10Zzzz1Arab17Zzzz5" ++
  "Arab3Zzzz1Arab5Zzzz1Arab17Zzzz52Arab2Zzzz270Zyyy44Zzzz4Zyyy100Zzzz12Zyyy15Zzzz2Zyyy15" ++
  "Zzzz1Zyyy15Zzzz1Zyyy37Zzzz10Zyyy174Zzzz56Zyyy26Hira1Zyyy2Zzzz13Zyyy44Zzzz4Zyyy9Zzzz7Zyyy2" ++
  "Zzzz14Zyyy6Zzzz154Zyyy984Zzzz4Zyyy17Zzzz3Zyyy13Zzzz3Zyyy119Zzzz4Zyyy95Zzzz6Zyyy12Zzzz4" ++
  "Zyyy1Zzzz15Zyyy12Zzzz4Zyyy56Zzzz8Zyyy10Zzzz6Zyyy40Zzzz8Zyyy30Zzzz2Zyyy2Zzzz78Zyyy340" ++
  "Zzzz12Zyyy14Zzzz2Zyyy13Zzzz3Zyyy9Zzzz7Zyyy46Zzzz1Zyyy7Zzzz8Zyyy14Zzzz4Zyyy9Zzzz7Zyyy9" ++
  "Zzzz7Zyyy147Zzzz1Zyyy55Zzzz37Zyyy10Zzzz1030Hani42720Zzzz32Hani4154Zzzz6Hani222Zzzz2" ++
  "Hani5762Zzzz14Hani7473Zzzz3103Hani542Zzzz1506Hani4939Zzzz5Hani4192Zzzz711761Zyyy1Zzzz30" ++
  "Zyyy96Zzzz128Zinh240Zzzz196112Zzzz0"

def scriptNames : List (String × List String) := [
  ("Zyyy", ["zyyy", "common"]), ("Latn", ["latn", "latin"]), ("Bopo", ["bopo", "bopomofo"]),
  ("Zinh", ["zinh", "inherited", "qaai"]), ("Grek", ["grek", "greek"]),
  ("Zzzz", ["zzzz", "unknown"]), ("Copt", ["copt", "coptic", "qaac"]),
  ("Cyrl", ["cyrl", "cyrillic"]), ("Armn", ["armn", "armenian"]), ("Hebr", ["hebr", "hebrew"]),
  ("Arab", ["arab", "arabic"]), ("Syrc", ["syrc", "syriac"]), ("Thaa", ["thaa", "thaana"]),
  ("Nkoo", ["nkoo", "nko"]), ("Samr", ["samr", "samaritan"]), ("Mand", ["mand", "mandaic"]),
  ("Deva", ["deva", "devanagari"]), ("Beng", ["beng", "bengali"]), ("Guru", ["guru", "gurmukhi"]),
  ("Gujr", ["gujr", "gujarati"]), ("Orya", ["orya", "oriya"]), ("Taml", ["taml", "tamil"]),
  ("Telu", ["telu", "telugu"]), ("Knda", ["knda", "kannada"]), ("Mlym", ["mlym", "malayalam"]),
  ("Sinh", ["sinh", "sinhala"]), ("Thai", ["thai"]), ("Laoo", ["laoo", "lao"]),
  ("Tibt", ["tibt", "tibetan"]), ("Mymr", ["mymr", "myanmar"]), ("Geor", ["geor", "georgian"]),
  ("Hang", ["hang", "hangul"]), ("Ethi", ["ethi", "ethiopic"]), ("Cher", ["cher", "cherokee"]),
  ("Cans", ["cans", "canadianaboriginal"]), ("Ogam", ["ogam", "ogham"]),
  ("Runr", ["runr", "runic"]), ("Tglg", ["tglg", "tagalog"]), ("Hano", ["hano", "hanunoo"]),
  ("Buhd", ["buhd", "buhid"]), ("Tagb", ["tagb", "tagbanwa"]), ("Khmr", ["khmr", "khmer"]),
  ("Mong", ["mong", "mongolian"]), ("Limb", ["limb", "limbu"]), ("Tale", ["tale", "taile"]),
  ("Talu", ["talu", "newtailue"]), ("Bugi", ["bugi", "buginese"]), ("Lana", ["lana", "taitham"]),
  ("Bali", ["bali", "balinese"]), ("Sund", ["sund", "sundanese"]), ("Batk", ["batk", "batak"]),
  ("Lepc", ["lepc", "lepcha"]), ("Olck", ["olck", "olchiki"]), ("Brai", ["brai", "braille"]),
  ("Glag", ["glag", "glagolitic"]), ("Tfng", ["tfng", "tifinagh"]), ("Hani", ["hani", "han"]),
  ("Hira", ["hira", "hiragana"]), ("Kana", ["kana", "katakana"]), ("Yiii", ["yiii", "yi"]),
  ("Lisu", ["lisu"]), ("Vaii", ["vaii", "vai"]), ("Bamu", ["bamu", "bamum"]),
  ("Sylo", ["sylo", "sylotinagri"]), ("Phag", ["phag", "phagspa"]),
  ("Saur", ["saur", "saurashtra"]), ("Kali", ["kali", "kayahli"]), ("Rjng", ["rjng", "rejang"]),
  ("Java", ["java", "javanese"]), ("Cham", ["cham"]), ("Tavt", ["tavt", "taiviet"]),
  ("Mtei", ["mtei", "meeteimayek"]), ("Linb", ["linb", "linearb"]), ("Lyci", ["lyci", "lycian"]),
  ("Cari", ["cari", "carian"]), ("Ital", ["ital", "olditalic"]), ("Goth", ["goth", "gothic"]),
  ("Perm", ["perm", "oldpermic"]), ("Ugar", ["ugar", "ugaritic"]),
  ("Xpeo", ["xpeo", "oldpersian"]), ("Dsrt", ["dsrt", "deseret"]), ("Shaw", ["shaw", "shavian"]),
  ("Osma", ["osma", "osmanya"]), ("Osge", ["osge", "osage"]), ("Elba", ["elba", "elbasan"]),
  ("Aghb", ["aghb", "caucasianalbanian"]), ("Vith", ["vith", "vithkuqi"]),
  ("Lina", ["lina", "lineara"]), ("Cprt", ["cprt", "cypriot"]),
  ("Armi", ["armi", "imperialaramaic"]), ("Palm", ["palm", "palmyrene"]),
  ("Nbat", ["nbat", "nabataean"]), ("Hatr", ["hatr", "hatran"]), ("Phnx", ["phnx", "phoenician"]),
  ("Lydi", ["lydi", "lydian"]), ("Mero", ["mero", "meroitichieroglyphs"]),
  ("Merc", ["merc", "meroiticcursive"]), ("Khar", ["khar", "kharoshthi"]),
  ("Sarb", ["sarb", "oldsoutharabian"]), ("Narb", ["narb", "oldnortharabian"]),
  ("Mani", ["mani", "manichaean"]), ("Avst", ["avst", "avestan"]),
  ("Prti", ["prti", "inscriptionalparthian"]), ("Phli", ["phli", "inscriptionalpahlavi"]),
  ("Phlp", ["phlp", "psalterpahlavi"]), ("Orkh", ["orkh", "oldturkic"]),
  ("Hung", ["hung", "oldhungarian"]), ("Rohg", ["rohg", "hanifirohingya"]),
  ("Yezi", ["yezi", "yezidi"]), ("Sogo", ["sogo", "oldsogdian"]), ("Sogd", ["sogd", "sogdian"]),
  ("Ougr", ["ougr", "olduyghur"]), ("Chrs", ["chrs", "chorasmian"]),
  ("Elym", ["elym", "elymaic"]), ("Brah", ["brah", "brahmi"]), ("Kthi", ["kthi", "kaithi"]),
  ("Sora", ["sora", "sorasompeng"]), ("Cakm", ["cakm", "chakma"]), ("Mahj", ["mahj", "mahajani"]),
  ("Shrd", ["shrd", "sharada"]), ("Khoj", ["khoj", "khojki"]), ("Mult", ["mult", "multani"]),
  ("Sind", ["sind", "khudawadi"]), ("Gran", ["gran", "grantha"]), ("Newa", ["newa"]),
  ("Tirh", ["tirh", "tirhuta"]), ("Sidd", ["sidd", "siddham"]), ("Modi", ["modi"]),
  ("Takr", ["takr", "takri"]), ("Ahom", ["ahom"]), ("Dogr", ["dogr", "dogra"]),
  ("Wara", ["wara", "warangciti"]), ("Diak", ["diak", "divesakuru"]),
  ("Nand", ["nand", "nandinagari"]), ("Zanb", ["zanb", "zanabazarsquare"]),
  ("Soyo", ["soyo", "soyombo"]), ("Pauc", ["pauc", "paucinhau"]), ("Bhks", ["bhks", "bhaiksuki"]),
  ("Marc", ["marc", "marchen"]), ("Gonm", ["gonm", "masaramgondi"]),
  ("Gong", ["gong", "gunjalagondi"]), ("Maka", ["maka", "makasar"]), ("Kawi", ["kawi"]),
  ("Xsux", ["xsux", "cuneiform"]), ("Cpmn", ["cpmn", "cyprominoan"]),
  ("Egyp", ["egyp", "egyptianhieroglyphs"]), ("Hluw", ["hluw", "anatolianhieroglyphs"]),
  ("Mroo", ["mroo", "mro"]), ("Tnsa", ["tnsa", "tangsa"]), ("Bass", ["bass", "bassavah"]),
  ("Hmng", ["hmng", "pahawhhmong"]), ("Medf", ["medf", "medefaidrin"]),
  ("Plrd", ["plrd", "miao"]), ("Tang", ["tang", "tangut"]), ("Nshu", ["nshu", "nushu"]),
  ("Kits", ["kits", "khitansmallscript"]), ("Dupl", ["dupl", "duployan"]),
  ("Sgnw", ["sgnw", "signwriting"]), ("Hmnp", ["hmnp", "nyiakengpuachuehmong"]),
  ("Toto", ["toto"]), ("Wcho", ["wcho", "wancho"]), ("Nagm", ["nagm", "nagmundari"]),
  ("Mend", ["mend", "mendekikakui"]), ("Adlm", ["adlm", "adlam"])]

end DocStore.Unicode

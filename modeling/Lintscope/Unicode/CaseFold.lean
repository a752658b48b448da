import Lintscope.Unicode.Ranges

/-!
# Letters that differ by case alone

Characters that fold to the same character are one family: mostly a small letter
and its capital, at times with older shapes of the letter beside them.
-/

namespace Lintscope.Unicode

/-- The families, one word each, the character that they all fold to first. -/
def families : List (List Char) :=
  Text.wordsBy isGap "aA bB cC dD eE fF gG hH iI jJ kKK lL mM nN oO pP qQ rR sSſ
    tT uU vV wW xX yY zZ ßẞ àÀ áÁ âÂ ãÃ äÄ åÅÅ æÆ çÇ èÈ éÉ êÊ ëË
    ìÌ íÍ îÎ ïÏ ðÐ ñÑ òÒ óÓ ôÔ õÕ öÖ øØ ùÙ úÚ ûÛ üÜ ýÝ þÞ ÿŸ āĀ
    ăĂ ąĄ ćĆ ĉĈ ċĊ čČ ďĎ đĐ ēĒ ĕĔ ėĖ ęĘ ěĚ ĝĜ ğĞ ġĠ ģĢ ĥĤ ħĦ ĩĨ
    īĪ ĭĬ įĮ ĳĲ ĵĴ ķĶ ĺĹ ļĻ ľĽ ŀĿ łŁ ńŃ ņŅ ňŇ ŋŊ ōŌ ŏŎ őŐ œŒ ŕŔ
    ŗŖ řŘ śŚ ŝŜ şŞ šŠ ţŢ ťŤ ŧŦ ũŨ ūŪ ŭŬ ůŮ űŰ ųŲ ŵŴ ŷŶ źŹ żŻ žŽ
    ƀɃ ƃƂ ƅƄ ƈƇ ƌƋ ƒƑ ƕǶ ƙƘ ƚȽ ƞȠ ơƠ ƣƢ ƥƤ ƨƧ ƭƬ ưƯ ƴƳ ƶƵ ƹƸ ƽƼ
    ƿǷ ǆǄǅ ǉǇǈ ǌǊǋ ǎǍ ǐǏ ǒǑ ǔǓ ǖǕ ǘǗ ǚǙ ǜǛ ǝƎ ǟǞ ǡǠ ǣǢ ǥǤ ǧǦ ǩǨ
    ǫǪ ǭǬ ǯǮ ǳǱǲ ǵǴ ǹǸ ǻǺ ǽǼ ǿǾ ȁȀ ȃȂ ȅȄ ȇȆ ȉȈ ȋȊ ȍȌ ȏȎ ȑȐ ȓȒ ȕȔ
    ȗȖ șȘ țȚ ȝȜ ȟȞ ȣȢ ȥȤ ȧȦ ȩȨ ȫȪ ȭȬ ȯȮ ȱȰ ȳȲ ȼȻ ȿⱾ ɀⱿ ɂɁ ɇɆ ɉɈ
    ɋɊ ɍɌ ɏɎ ɐⱯ ɑⱭ ɒⱰ ɓƁ ɔƆ ɖƉ ɗƊ əƏ ɛƐ ɜꞫ ɠƓ ɡꞬ ɣƔ ɥꞍ ɦꞪ ɨƗ ɩƖ
    ɪꞮ ɫⱢ ɬꞭ ɯƜ ɱⱮ ɲƝ ɵƟ ɽⱤ ʀƦ ʂꟅ ʃƩ ʇꞱ ʈƮ ʉɄ ʊƱ ʋƲ ʌɅ ʒƷ ʝꞲ ʞꞰ
    ͱͰ ͳͲ ͷͶ ͻϽ ͼϾ ͽϿ άΆ έΈ ήΉ ίΊ αΑ βΒϐ γΓ δΔ εΕϵ ζΖ ηΗ θΘϑϴ
    ιͅΙι κΚϰ λΛ μµΜ νΝ ξΞ οΟ πΠϖ ρΡϱ σΣς τΤ υΥ φΦϕ χΧ ψΨ ωΩΩ ϊΪ
    ϋΫ όΌ ύΎ ώΏ ϗϏ ϙϘ ϛϚ ϝϜ ϟϞ ϡϠ ϣϢ ϥϤ ϧϦ ϩϨ ϫϪ ϭϬ ϯϮ ϲϹ ϳͿ ϸϷ
    ϻϺ аА бБ вВᲀ гГ дДᲁ еЕ жЖ зЗ иИ йЙ кК лЛ мМ нН оОᲂ пП рР сСᲃ
    тТᲄᲅ уУ фФ хХ цЦ чЧ шШ щЩ ъЪᲆ ыЫ ьЬ эЭ юЮ яЯ ѐЀ ёЁ ђЂ ѓЃ єЄ
    ѕЅ іІ їЇ јЈ љЉ њЊ ћЋ ќЌ ѝЍ ўЎ џЏ ѡѠ ѣѢᲇ ѥѤ ѧѦ ѩѨ ѫѪ ѭѬ ѯѮ ѱѰ
    ѳѲ ѵѴ ѷѶ ѹѸ ѻѺ ѽѼ ѿѾ ҁҀ ҋҊ ҍҌ ҏҎ ґҐ ғҒ ҕҔ җҖ ҙҘ қҚ ҝҜ ҟҞ ҡҠ
    ңҢ ҥҤ ҧҦ ҩҨ ҫҪ ҭҬ үҮ ұҰ ҳҲ ҵҴ ҷҶ ҹҸ һҺ ҽҼ ҿҾ ӂӁ ӄӃ ӆӅ ӈӇ ӊӉ
    ӌӋ ӎӍ ӏӀ ӑӐ ӓӒ ӕӔ ӗӖ әӘ ӛӚ ӝӜ ӟӞ ӡӠ ӣӢ ӥӤ ӧӦ өӨ ӫӪ ӭӬ ӯӮ ӱӰ
    ӳӲ ӵӴ ӷӶ ӹӸ ӻӺ ӽӼ ӿӾ ԁԀ ԃԂ ԅԄ ԇԆ ԉԈ ԋԊ ԍԌ ԏԎ ԑԐ ԓԒ ԕԔ ԗԖ ԙԘ
    ԛԚ ԝԜ ԟԞ ԡԠ ԣԢ ԥԤ ԧԦ ԩԨ ԫԪ ԭԬ ԯԮ աԱ բԲ գԳ դԴ եԵ զԶ էԷ ըԸ թԹ
    ժԺ իԻ լԼ խԽ ծԾ կԿ հՀ ձՁ ղՂ ճՃ մՄ յՅ նՆ շՇ ոՈ չՉ պՊ ջՋ ռՌ սՍ
    վՎ տՏ րՐ ցՑ ւՒ փՓ քՔ օՕ ֆՖ აᲐ ბᲑ გᲒ დᲓ ეᲔ ვᲕ ზᲖ თᲗ იᲘ კᲙ ლᲚ
    მᲛ ნᲜ ოᲝ პᲞ ჟᲟ რᲠ სᲡ ტᲢ უᲣ ფᲤ ქᲥ ღᲦ ყᲧ შᲨ ჩᲩ ცᲪ ძᲫ წᲬ ჭᲭ ხᲮ
    ჯᲯ ჰᲰ ჱᲱ ჲᲲ ჳᲳ ჴᲴ ჵᲵ ჶᲶ ჷᲷ ჸᲸ ჹᲹ ჺᲺ ჽᲽ ჾᲾ ჿᲿ Ꭰꭰ Ꭱꭱ Ꭲꭲ Ꭳꭳ Ꭴꭴ
    Ꭵꭵ Ꭶꭶ Ꭷꭷ Ꭸꭸ Ꭹꭹ Ꭺꭺ Ꭻꭻ Ꭼꭼ Ꭽꭽ Ꭾꭾ Ꭿꭿ Ꮀꮀ Ꮁꮁ Ꮂꮂ Ꮃꮃ Ꮄꮄ Ꮅꮅ Ꮆꮆ Ꮇꮇ Ꮈꮈ
    Ꮉꮉ Ꮊꮊ Ꮋꮋ Ꮌꮌ Ꮍꮍ Ꮎꮎ Ꮏꮏ Ꮐꮐ Ꮑꮑ Ꮒꮒ Ꮓꮓ Ꮔꮔ Ꮕꮕ Ꮖꮖ Ꮗꮗ Ꮘꮘ Ꮙꮙ Ꮚꮚ Ꮛꮛ Ꮜꮜ
    Ꮝꮝ Ꮞꮞ Ꮟꮟ Ꮠꮠ Ꮡꮡ Ꮢꮢ Ꮣꮣ Ꮤꮤ Ꮥꮥ Ꮦꮦ Ꮧꮧ Ꮨꮨ Ꮩꮩ Ꮪꮪ Ꮫꮫ Ꮬꮬ Ꮭꮭ Ꮮꮮ Ꮯꮯ Ꮰꮰ
    Ꮱꮱ Ꮲꮲ Ꮳꮳ Ꮴꮴ Ꮵꮵ Ꮶꮶ Ꮷꮷ Ꮸꮸ Ꮹꮹ Ꮺꮺ Ꮻꮻ Ꮼꮼ Ꮽꮽ Ꮾꮾ Ꮿꮿ Ᏸᏸ Ᏹᏹ Ᏺᏺ Ᏻᏻ Ᏼᏼ
    Ᏽᏽ ᵹꝽ ᵽⱣ ᶎꟆ ḁḀ ḃḂ ḅḄ ḇḆ ḉḈ ḋḊ ḍḌ ḏḎ ḑḐ ḓḒ ḕḔ ḗḖ ḙḘ ḛḚ ḝḜ ḟḞ
    ḡḠ ḣḢ ḥḤ ḧḦ ḩḨ ḫḪ ḭḬ ḯḮ ḱḰ ḳḲ ḵḴ ḷḶ ḹḸ ḻḺ ḽḼ ḿḾ ṁṀ ṃṂ ṅṄ ṇṆ
    ṉṈ ṋṊ ṍṌ ṏṎ ṑṐ ṓṒ ṕṔ ṗṖ ṙṘ ṛṚ ṝṜ ṟṞ ṡṠẛ ṣṢ ṥṤ ṧṦ ṩṨ ṫṪ ṭṬ ṯṮ
    ṱṰ ṳṲ ṵṴ ṷṶ ṹṸ ṻṺ ṽṼ ṿṾ ẁẀ ẃẂ ẅẄ ẇẆ ẉẈ ẋẊ ẍẌ ẏẎ ẑẐ ẓẒ ẕẔ ạẠ
    ảẢ ấẤ ầẦ ẩẨ ẫẪ ậẬ ắẮ ằẰ ẳẲ ẵẴ ặẶ ẹẸ ẻẺ ẽẼ ếẾ ềỀ ểỂ ễỄ ệỆ ỉỈ
    ịỊ ọỌ ỏỎ ốỐ ồỒ ổỔ ỗỖ ộỘ ớỚ ờỜ ởỞ ỡỠ ợỢ ụỤ ủỦ ứỨ ừỪ ửỬ ữỮ ựỰ
    ỳỲ ỵỴ ỷỶ ỹỸ ỻỺ ỽỼ ỿỾ ἀἈ ἁἉ ἂἊ ἃἋ ἄἌ ἅἍ ἆἎ ἇἏ ἐἘ ἑἙ ἒἚ ἓἛ ἔἜ
    ἕἝ ἠἨ ἡἩ ἢἪ ἣἫ ἤἬ ἥἭ ἦἮ ἧἯ ἰἸ ἱἹ ἲἺ ἳἻ ἴἼ ἵἽ ἶἾ ἷἿ ὀὈ ὁὉ ὂὊ
    ὃὋ ὄὌ ὅὍ ὑὙ ὓὛ ὕὝ ὗὟ ὠὨ ὡὩ ὢὪ ὣὫ ὤὬ ὥὭ ὦὮ ὧὯ ὰᾺ άΆ ὲῈ έΈ ὴῊ
    ήΉ ὶῚ ίΊ ὸῸ όΌ ὺῪ ύΎ ὼῺ ώΏ ᾀᾈ ᾁᾉ ᾂᾊ ᾃᾋ ᾄᾌ ᾅᾍ ᾆᾎ ᾇᾏ ᾐᾘ ᾑᾙ ᾒᾚ
    ᾓᾛ ᾔᾜ ᾕᾝ ᾖᾞ ᾗᾟ ᾠᾨ ᾡᾩ ᾢᾪ ᾣᾫ ᾤᾬ ᾥᾭ ᾦᾮ ᾧᾯ ᾰᾸ ᾱᾹ ᾳᾼ ῃῌ ῐῘ ῑῙ ῠῨ
    ῡῩ ῥῬ ῳῼ ⅎℲ ⅰⅠ ⅱⅡ ⅲⅢ ⅳⅣ ⅴⅤ ⅵⅥ ⅶⅦ ⅷⅧ ⅸⅨ ⅹⅩ ⅺⅪ ⅻⅫ ⅼⅬ ⅽⅭ ⅾⅮ ⅿⅯ
    ↄↃ ⓐⒶ ⓑⒷ ⓒⒸ ⓓⒹ ⓔⒺ ⓕⒻ ⓖⒼ ⓗⒽ ⓘⒾ ⓙⒿ ⓚⓀ ⓛⓁ ⓜⓂ ⓝⓃ ⓞⓄ ⓟⓅ ⓠⓆ ⓡⓇ ⓢⓈ
    ⓣⓉ ⓤⓊ ⓥⓋ ⓦⓌ ⓧⓍ ⓨⓎ ⓩⓏ ⰰⰀ ⰱⰁ ⰲⰂ ⰳⰃ ⰴⰄ ⰵⰅ ⰶⰆ ⰷⰇ ⰸⰈ ⰹⰉ ⰺⰊ ⰻⰋ ⰼⰌ
    ⰽⰍ ⰾⰎ ⰿⰏ ⱀⰐ ⱁⰑ ⱂⰒ ⱃⰓ ⱄⰔ ⱅⰕ ⱆⰖ ⱇⰗ ⱈⰘ ⱉⰙ ⱊⰚ ⱋⰛ ⱌⰜ ⱍⰝ ⱎⰞ ⱏⰟ ⱐⰠ
    ⱑⰡ ⱒⰢ ⱓⰣ ⱔⰤ ⱕⰥ ⱖⰦ ⱗⰧ ⱘⰨ ⱙⰩ ⱚⰪ ⱛⰫ ⱜⰬ ⱝⰭ ⱞⰮ ⱟⰯ ⱡⱠ ⱥȺ ⱦȾ ⱨⱧ ⱪⱩ
    ⱬⱫ ⱳⱲ ⱶⱵ ⲁⲀ ⲃⲂ ⲅⲄ ⲇⲆ ⲉⲈ ⲋⲊ ⲍⲌ ⲏⲎ ⲑⲐ ⲓⲒ ⲕⲔ ⲗⲖ ⲙⲘ ⲛⲚ ⲝⲜ ⲟⲞ ⲡⲠ
    ⲣⲢ ⲥⲤ ⲧⲦ ⲩⲨ ⲫⲪ ⲭⲬ ⲯⲮ ⲱⲰ ⲳⲲ ⲵⲴ ⲷⲶ ⲹⲸ ⲻⲺ ⲽⲼ ⲿⲾ ⳁⳀ ⳃⳂ ⳅⳄ ⳇⳆ ⳉⳈ
    ⳋⳊ ⳍⳌ ⳏⳎ ⳑⳐ ⳓⳒ ⳕⳔ ⳗⳖ ⳙⳘ ⳛⳚ ⳝⳜ ⳟⳞ ⳡⳠ ⳣⳢ ⳬⳫ ⳮⳭ ⳳⳲ ⴀႠ ⴁႡ ⴂႢ ⴃႣ
    ⴄႤ ⴅႥ ⴆႦ ⴇႧ ⴈႨ ⴉႩ ⴊႪ ⴋႫ ⴌႬ ⴍႭ ⴎႮ ⴏႯ ⴐႰ ⴑႱ ⴒႲ ⴓႳ ⴔႴ ⴕႵ ⴖႶ ⴗႷ
    ⴘႸ ⴙႹ ⴚႺ ⴛႻ ⴜႼ ⴝႽ ⴞႾ ⴟႿ ⴠჀ ⴡჁ ⴢჂ ⴣჃ ⴤჄ ⴥჅ ⴧჇ ⴭჍ ꙁꙀ ꙃꙂ ꙅꙄ ꙇꙆ
    ꙉꙈ ꙋᲈꙊ ꙍꙌ ꙏꙎ ꙑꙐ ꙓꙒ ꙕꙔ ꙗꙖ ꙙꙘ ꙛꙚ ꙝꙜ ꙟꙞ ꙡꙠ ꙣꙢ ꙥꙤ ꙧꙦ ꙩꙨ ꙫꙪ ꙭꙬ ꚁꚀ
    ꚃꚂ ꚅꚄ ꚇꚆ ꚉꚈ ꚋꚊ ꚍꚌ ꚏꚎ ꚑꚐ ꚓꚒ ꚕꚔ ꚗꚖ ꚙꚘ ꚛꚚ ꜣꜢ ꜥꜤ ꜧꜦ ꜩꜨ ꜫꜪ ꜭꜬ ꜯꜮ
    ꜳꜲ ꜵꜴ ꜷꜶ ꜹꜸ ꜻꜺ ꜽꜼ ꜿꜾ ꝁꝀ ꝃꝂ ꝅꝄ ꝇꝆ ꝉꝈ ꝋꝊ ꝍꝌ ꝏꝎ ꝑꝐ ꝓꝒ ꝕꝔ ꝗꝖ ꝙꝘ
    ꝛꝚ ꝝꝜ ꝟꝞ ꝡꝠ ꝣꝢ ꝥꝤ ꝧꝦ ꝩꝨ ꝫꝪ ꝭꝬ ꝯꝮ ꝺꝹ ꝼꝻ ꝿꝾ ꞁꞀ ꞃꞂ ꞅꞄ ꞇꞆ ꞌꞋ ꞑꞐ
    ꞓꞒ ꞔꟄ ꞗꞖ ꞙꞘ ꞛꞚ ꞝꞜ ꞟꞞ ꞡꞠ ꞣꞢ ꞥꞤ ꞧꞦ ꞩꞨ ꞵꞴ ꞷꞶ ꞹꞸ ꞻꞺ ꞽꞼ ꞿꞾ ꟁꟀ ꟃꟂ
    ꟈꟇ ꟊꟉ ꟑꟐ ꟗꟖ ꟙꟘ ꟶꟵ ꭓꞳ ａＡ ｂＢ ｃＣ ｄＤ ｅＥ ｆＦ ｇＧ ｈＨ ｉＩ ｊＪ ｋＫ ｌＬ ｍＭ
    ｎＮ ｏＯ ｐＰ ｑＱ ｒＲ ｓＳ ｔＴ ｕＵ ｖＶ ｗＷ ｘＸ ｙＹ ｚＺ 𐐨𐐀 𐐩𐐁 𐐪𐐂 𐐫𐐃 𐐬𐐄 𐐭𐐅 𐐮𐐆
    𐐯𐐇 𐐰𐐈 𐐱𐐉 𐐲𐐊 𐐳𐐋 𐐴𐐌 𐐵𐐍 𐐶𐐎 𐐷𐐏 𐐸𐐐 𐐹𐐑 𐐺𐐒 𐐻𐐓 𐐼𐐔 𐐽𐐕 𐐾𐐖 𐐿𐐗 𐑀𐐘 𐑁𐐙 𐑂𐐚
    𐑃𐐛 𐑄𐐜 𐑅𐐝 𐑆𐐞 𐑇𐐟 𐑈𐐠 𐑉𐐡 𐑊𐐢 𐑋𐐣 𐑌𐐤 𐑍𐐥 𐑎𐐦 𐑏𐐧 𐓘𐒰 𐓙𐒱 𐓚𐒲 𐓛𐒳 𐓜𐒴 𐓝𐒵 𐓞𐒶
    𐓟𐒷 𐓠𐒸 𐓡𐒹 𐓢𐒺 𐓣𐒻 𐓤𐒼 𐓥𐒽 𐓦𐒾 𐓧𐒿 𐓨𐓀 𐓩𐓁 𐓪𐓂 𐓫𐓃 𐓬𐓄 𐓭𐓅 𐓮𐓆 𐓯𐓇 𐓰𐓈 𐓱𐓉 𐓲𐓊
    𐓳𐓋 𐓴𐓌 𐓵𐓍 𐓶𐓎 𐓷𐓏 𐓸𐓐 𐓹𐓑 𐓺𐓒 𐓻𐓓 𐖗𐕰 𐖘𐕱 𐖙𐕲 𐖚𐕳 𐖛𐕴 𐖜𐕵 𐖝𐕶 𐖞𐕷 𐖟𐕸 𐖠𐕹 𐖡𐕺
    𐖣𐕼 𐖤𐕽 𐖥𐕾 𐖦𐕿 𐖧𐖀 𐖨𐖁 𐖩𐖂 𐖪𐖃 𐖫𐖄 𐖬𐖅 𐖭𐖆 𐖮𐖇 𐖯𐖈 𐖰𐖉 𐖱𐖊 𐖳𐖌 𐖴𐖍 𐖵𐖎 𐖶𐖏 𐖷𐖐
    𐖸𐖑 𐖹𐖒 𐖻𐖔 𐖼𐖕 𐳀𐲀 𐳁𐲁 𐳂𐲂 𐳃𐲃 𐳄𐲄 𐳅𐲅 𐳆𐲆 𐳇𐲇 𐳈𐲈 𐳉𐲉 𐳊𐲊 𐳋𐲋 𐳌𐲌 𐳍𐲍 𐳎𐲎 𐳏𐲏
    𐳐𐲐 𐳑𐲑 𐳒𐲒 𐳓𐲓 𐳔𐲔 𐳕𐲕 𐳖𐲖 𐳗𐲗 𐳘𐲘 𐳙𐲙 𐳚𐲚 𐳛𐲛 𐳜𐲜 𐳝𐲝 𐳞𐲞 𐳟𐲟 𐳠𐲠 𐳡𐲡 𐳢𐲢 𐳣𐲣
    𐳤𐲤 𐳥𐲥 𐳦𐲦 𐳧𐲧 𐳨𐲨 𐳩𐲩 𐳪𐲪 𐳫𐲫 𐳬𐲬 𐳭𐲭 𐳮𐲮 𐳯𐲯 𐳰𐲰 𐳱𐲱 𐳲𐲲 𑣀𑢠 𑣁𑢡 𑣂𑢢 𑣃𑢣 𑣄𑢤
    𑣅𑢥 𑣆𑢦 𑣇𑢧 𑣈𑢨 𑣉𑢩 𑣊𑢪 𑣋𑢫 𑣌𑢬 𑣍𑢭 𑣎𑢮 𑣏𑢯 𑣐𑢰 𑣑𑢱 𑣒𑢲 𑣓𑢳 𑣔𑢴 𑣕𑢵 𑣖𑢶 𑣗𑢷 𑣘𑢸
    𑣙𑢹 𑣚𑢺 𑣛𑢻 𑣜𑢼 𑣝𑢽 𑣞𑢾 𑣟𑢿 𖹠𖹀 𖹡𖹁 𖹢𖹂 𖹣𖹃 𖹤𖹄 𖹥𖹅 𖹦𖹆 𖹧𖹇 𖹨𖹈 𖹩𖹉 𖹪𖹊 𖹫𖹋 𖹬𖹌
    𖹭𖹍 𖹮𖹎 𖹯𖹏 𖹰𖹐 𖹱𖹑 𖹲𖹒 𖹳𖹓 𖹴𖹔 𖹵𖹕 𖹶𖹖 𖹷𖹗 𖹸𖹘 𖹹𖹙 𖹺𖹚 𖹻𖹛 𖹼𖹜 𖹽𖹝 𖹾𖹞 𖹿𖹟 𞤢𞤀
    𞤣𞤁 𞤤𞤂 𞤥𞤃 𞤦𞤄 𞤧𞤅 𞤨𞤆 𞤩𞤇 𞤪𞤈 𞤫𞤉 𞤬𞤊 𞤭𞤋 𞤮𞤌 𞤯𞤍 𞤰𞤎 𞤱𞤏 𞤲𞤐 𞤳𞤑 𞤴𞤒 𞤵𞤓 𞤶𞤔
    𞤷𞤕 𞤸𞤖 𞤹𞤗 𞤺𞤘 𞤻𞤙 𞤼𞤚 𞤽𞤛 𞤾𞤜 𞤿𞤝 𞥀𞤞 𞥁𞤟 𞥂𞤠 𞥃𞤡".toList

/-- The characters that differ from `c` by case alone, `c` among them. -/
def caseVariants (c : Char) : List Char :=
  (families.find? (·.contains c)).getD [c]

end Lintscope.Unicode

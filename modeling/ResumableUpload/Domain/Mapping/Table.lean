import ResumableUpload.Text.Ranges

/-! Which characters a domain name may be written with, and what they stand for. -/

namespace ResumableUpload.Domain.Mapping

open Text

def blockTexts : List (Nat × String) := [
  (0x41, "abcdefghijklmnopqrstuvwxyz"),
  (0xa0, "
\u0020…………………«\u0020\u0308»…a…………«\u0020\u0304»……23«\u0020\u0301»μ……«\u0020\u0327»1o…«1⁄4»«1⁄2»
«3⁄4»…àáâãäåæçèéêëìíîïðñòóôõö…øùúûüýþ"),
  (0x100, "
ā…ă…ą…ć…ĉ…ċ…č…ď…đ…ē…ĕ…ė…ę…ě…ĝ…ğ…ġ…ģ…ĥ…ħ…ĩ…ī…ĭ…į…«i\u0307»…«ij»«ij»ĵ…ķ……ĺ…ļ…ľ…«l·»«l·»ł…ń…ņ…ň…
«ʼn»ŋ…ō…ŏ…ő…œ…ŕ…ŗ…ř…ś…ŝ…ş…š…ţ…ť…ŧ…ũ…ū…ŭ…ů…ű…ų…ŵ…ŷ…ÿź…ż…ž…s…ɓƃ…ƅ…ɔƈ…ɖɗƌ……ǝəɛƒ…ɠɣ…ɩɨƙ………ɯɲ…ɵơ…ƣ…ƥ…
ʀƨ…ʃ……ƭ…ʈư…ʊʋƴ…ƶ…ʒƹ………ƽ…………………«dž»«dž»«dž»«lj»«lj»«lj»«nj»«nj»«nj»ǎ…ǐ…ǒ…ǔ…ǖ…ǘ…ǚ…ǜ……ǟ…ǡ…ǣ…ǥ…ǧ…ǩ…ǫ
…ǭ…ǯ……«dz»«dz»«dz»ǵ…ƕƿǹ…ǻ…ǽ…ǿ…ȁ…ȃ…ȅ…ȇ…ȉ…ȋ…ȍ…ȏ…ȑ…ȓ…ȕ…ȗ…ș…ț…ȝ…ȟ…ƞ…ȣ…ȥ…ȧ…ȩ…ȫ…ȭ…ȯ…ȱ…ȳ…………………ⱥȼ…ƚⱦ……ɂ
…ƀʉʌɇ…ɉ…ɋ…ɍ…ɏ"),
  (0x2b0, "hɦjrɹɻʁwy"),
  (0x2d8, "«\u0020\u0306»«\u0020\u0307»«\u0020\u030a»«\u0020\u0328»«\u0020\u0303»«\u0020\u030b»……ɣlsxʕ"),
  (0x340, "\u0300\u0301…\u0313«\u0308\u0301»ι"),
  (0x370, "
ͱ…ͳ…ʹ…ͷ………«\u0020ι»………;ϳ…………«\u0020\u0301»«\u0020\u0308\u0301»ά·έήί…ό…ύώ…αβγδεζηθικλμνξοπρ…στυφχ
ψωϊϋ"),
  (0x3cf, "
ϗβθυύϋφπ…ϙ…ϛ…ϝ…ϟ…ϡ…ϣ…ϥ…ϧ…ϩ…ϫ…ϭ…ϯ…κρσ…θε…ϸ…σϻ……ͻͼͽѐёђѓєѕіїјљњћќѝўџабвгдежзийклмнопрстуфхцчшщъыьэю
я"),
  (0x460, "ѡ…ѣ…ѥ…ѧ…ѩ…ѫ…ѭ…ѯ…ѱ…ѳ…ѵ…ѷ…ѹ…ѻ…ѽ…ѿ…ҁ"),
  (0x48a, "
ҋ…ҍ…ҏ…ґ…ғ…ҕ…җ…ҙ…қ…ҝ…ҟ…ҡ…ң…ҥ…ҧ…ҩ…ҫ…ҭ…ү…ұ…ҳ…ҵ…ҷ…ҹ…һ…ҽ…ҿ…ӏӂ…ӄ…ӆ…ӈ…ӊ…ӌ…ӎ……ӑ…ӓ…ӕ…ӗ…ә…ӛ…ӝ…ӟ…ӡ…ӣ…ӥ…ӧ…ө…
ӫ…ӭ…ӯ…ӱ…ӳ…ӵ…ӷ…ӹ…ӻ…ӽ…ӿ…ԁ…ԃ…ԅ…ԇ…ԉ…ԋ…ԍ…ԏ…ԑ…ԓ…ԕ…ԗ…ԙ…ԛ…ԝ…ԟ…ԡ…ԣ…ԥ…ԧ…ԩ…ԫ…ԭ…ԯ……աբգդեզէըթժիլխծկհձղճմյնշոչ
պջռսվտրցւփքօֆ"),
  (0x587, "«եւ»"), (0x675, "«\u0627\u0674»«\u0648\u0674»«\u06c7\u0674»«\u064a\u0674»"),
  (0x958, "«क\u093c»«ख\u093c»«ग\u093c»«ज\u093c»«ड\u093c»«ढ\u093c»«फ\u093c»«य\u093c»"),
  (0x9dc, "«ড\u09bc»«ঢ\u09bc»…«য\u09bc»"), (0xa33, "«ਲ\u0a3c»……«ਸ\u0a3c»"),
  (0xa59, "«ਖ\u0a3c»«ਗ\u0a3c»«ਜ\u0a3c»……«ਫ\u0a3c»"), (0xb5c, "«ଡ\u0b3c»«ଢ\u0b3c»"), (0xe33, "«\u0e4dา»"),
  (0xeb3, "«\u0ecdາ»"), (0xedc, "«ຫນ»«ຫມ»"), (0xf0c, "་"), (0xf43, "«ག\u0fb7»"),
  (0xf4d, "«ཌ\u0fb7»…………«ད\u0fb7»…………«བ\u0fb7»…………«ཛ\u0fb7»"), (0xf69, "«ཀ\u0fb5»"),
  (0xf73, "
«\u0f71\u0f72»…«\u0f71\u0f74»«\u0fb2\u0f80»«\u0fb2\u0f71\u0f80»«\u0fb3\u0f80»
«\u0fb3\u0f71\u0f80»…………………«\u0f71\u0f80»"),
  (0xf93, "«\u0f92\u0fb7»"),
  (0xf9d, "«\u0f9c\u0fb7»…………«\u0fa1\u0fb7»…………«\u0fa6\u0fb7»…………«\u0fab\u0fb7»"),
  (0xfb9, "«\u0f90\u0fb5»"), (0x10a0, "ⴀⴁⴂⴃⴄⴅⴆⴇⴈⴉⴊⴋⴌⴍⴎⴏⴐⴑⴒⴓⴔⴕⴖⴗⴘⴙⴚⴛⴜⴝⴞⴟⴠⴡⴢⴣⴤⴥ…ⴧ……………ⴭ"), (0x10fc, "ნ"),
  (0x13f8, "ᏰᏱᏲᏳᏴᏵ"), (0x1c80, "вдосттъѣꙋ\u1c8a………………აბგდევზთიკლმნოპჟრსტუფქღყშჩცძწჭხჯჰჱჲჳჴჵჶჷჸჹჺ……ჽჾჿ"),
  (0x1d2c, "aæb…deǝghijklmn…oȣprtuwaɐɑᴂbdeəɛɜg…kmŋoɔᴖᴗptuᴝɯvᴥβγδφχiruvβγρφχ"), (0x1d78, "н"),
  (0x1d9b, "ɒcɕðɜfɟɡɥɨɩɪᵻʝɭᶅʟɱɰɲɳɴɵɸʂʃƫʉʊᴜʋʌzʐʑʒθ"),
  (0x1e00, "
ḁ…ḃ…ḅ…ḇ…ḉ…ḋ…ḍ…ḏ…ḑ…ḓ…ḕ…ḗ…ḙ…ḛ…ḝ…ḟ…ḡ…ḣ…ḥ…ḧ…ḩ…ḫ…ḭ…ḯ…ḱ…ḳ…ḵ…ḷ…ḹ…ḻ…ḽ…ḿ…ṁ…ṃ…ṅ…ṇ…ṉ…ṋ…ṍ…ṏ…ṑ…ṓ…ṕ…ṗ…ṙ…ṛ…ṝ…ṟ…
ṡ…ṣ…ṥ…ṧ…ṩ…ṫ…ṭ…ṯ…ṱ…ṳ…ṵ…ṷ…ṹ…ṻ…ṽ…ṿ…ẁ…ẃ…ẅ…ẇ…ẉ…ẋ…ẍ…ẏ…ẑ…ẓ…ẕ……………«aʾ»ṡ……ß…ạ…ả…ấ…ầ…ẩ…ẫ…ậ…ắ…ằ…ẳ…ẵ…ặ…ẹ…ẻ…ẽ
…ế…ề…ể…ễ…ệ…ỉ…ị…ọ…ỏ…ố…ồ…ổ…ỗ…ộ…ớ…ờ…ở…ỡ…ợ…ụ…ủ…ứ…ừ…ử…ữ…ự…ỳ…ỵ…ỷ…ỹ…ỻ…ỽ…ỿ"),
  (0x1f08, "ἀἁἂἃἄἅἆἇ"), (0x1f18, "ἐἑἒἓἔἕ"), (0x1f28, "ἠἡἢἣἤἥἦἧ"), (0x1f38, "ἰἱἲἳἴἵἶἷ"), (0x1f48, "ὀὁὂὃὄὅ"),
  (0x1f59, "ὑ…ὓ…ὕ…ὗ"),
  (0x1f68, "
ὠὡὢὣὤὥὦὧ…ά…έ…ή…ί…ό…ύ…ώ……«ἀι»«ἁι»«ἂι»«ἃι»«ἄι»«ἅι»«ἆι»«ἇι»«ἀι»«ἁι»«ἂι»«ἃι»«ἄι»«ἅι»«ἆι»«ἇι»«ἠι»«ἡι»
«ἢι»«ἣι»«ἤι»«ἥι»«ἦι»«ἧι»«ἠι»«ἡι»«ἢι»«ἣι»«ἤι»«ἥι»«ἦι»«ἧι»«ὠι»«ὡι»«ὢι»«ὣι»«ὤι»«ὥι»«ὦι»«ὧι»«ὠι»«ὡι»
«ὢι»«ὣι»«ὤι»«ὥι»«ὦι»«ὧι»……«ὰι»«αι»«άι»……«ᾶι»ᾰᾱὰά«αι»«\u0020\u0313»ι«\u0020\u0313»«\u0020\u0342»
«\u0020\u0308\u0342»«ὴι»«ηι»«ήι»……«ῆι»ὲέὴή«ηι»«\u0020\u0313\u0300»«\u0020\u0313\u0301»
«\u0020\u0313\u0342»………ΐ…………ῐῑὶί…«\u0020\u0314\u0300»«\u0020\u0314\u0301»«\u0020\u0314\u0342»………
ΰ…………ῠῡὺύῥ«\u0020\u0308\u0300»«\u0020\u0308\u0301»\u0060……«ὼι»«ωι»«ώι»……«ῶι»ὸόὼώ«ωι»
«\u0020\u0301»«\u0020\u0314»…\u0020\u0020\u0020\u0020\u0020\u0020\u0020\u0020\u0020\u0020\u0020…
……………‐……………«\u0020\u0333»"),
  (0x202f, "\u0020………«′′»«′′′»…«‵‵»«‵‵‵»…………«!!»…«\u0020\u0305»"), (0x2047, "«??»«?!»«!?»"),
  (0x2057, "«′′′′»…………………\u0020"), (0x2070, "0i……456789+−=()n0123456789+−=()…aeoxəhklmnpst"),
  (0x20a8, "«rs»"),
  (0x2100, "
«a/c»«a/s»c«°c»…«c/o»«c/u»ɛ…«°f»ghhhhħiill…n«no»……pqrrr……«sm»«tel»«tm»…z…ω…z…kåbc…eefⅎmo\u05d0
\u05d1\u05d2\u05d3i…«fax»πγγπ∑…………ddeij………………«1⁄7»«1⁄9»«1⁄10»«1⁄3»«2⁄3»«1⁄5»«2⁄5»«3⁄5»«4⁄5»«1⁄6»
«5⁄6»«1⁄8»«3⁄8»«5⁄8»«7⁄8»«1⁄»i«ii»«iii»«iv»v«vi»«vii»«viii»«ix»x«xi»«xii»lcdmi«ii»«iii»«iv»v«vi»
«vii»«viii»«ix»x«xi»«xii»lcdm………ↄ……………«0⁄3»"),
  (0x222c, "«∫∫»«∫∫∫»…«∮∮»«∮∮∮»"), (0x2329, "〈〉"),
  (0x2460, "
123456789«10»«11»«12»«13»«14»«15»«16»«17»«18»«19»«20»«(1)»«(2)»«(3)»«(4)»«(5)»«(6)»«(7)»«(8)»
«(9)»«(10)»«(11)»«(12)»«(13)»«(14)»«(15)»«(16)»«(17)»«(18)»«(19)»«(20)»"),
  (0x249c, "
«(a)»«(b)»«(c)»«(d)»«(e)»«(f)»«(g)»«(h)»«(i)»«(j)»«(k)»«(l)»«(m)»«(n)»«(o)»«(p)»«(q)»«(r)»«(s)»
«(t)»«(u)»«(v)»«(w)»«(x)»«(y)»«(z)»abcdefghijklmnopqrstuvwxyzabcdefghijklmnopqrstuvwxyz0"),
  (0x2a0c, "«∫∫∫∫»"), (0x2a74, "«::=»«==»«===»"), (0x2adc, "«⫝\u0338»"),
  (0x2c00, "ⰰⰱⰲⰳⰴⰵⰶⰷⰸⰹⰺⰻⰼⰽⰾⰿⱀⱁⱂⱃⱄⱅⱆⱇⱈⱉⱊⱋⱌⱍⱎⱏⱐⱑⱒⱓⱔⱕⱖⱗⱘⱙⱚⱛⱜⱝⱞⱟ"),
  (0x2c60, "
ⱡ…ɫᵽɽ……ⱨ…ⱪ…ⱬ…ɑɱɐɒ…ⱳ……ⱶ………………jvȿɀⲁ…ⲃ…ⲅ…ⲇ…ⲉ…ⲋ…ⲍ…ⲏ…ⲑ…ⲓ…ⲕ…ⲗ…ⲙ…ⲛ…ⲝ…ⲟ…ⲡ…ⲣ…ⲥ…ⲧ…ⲩ…ⲫ…ⲭ…ⲯ…ⲱ…ⲳ…ⲵ…ⲷ…ⲹ…ⲻ…ⲽ…ⲿ…
ⳁ…ⳃ…ⳅ…ⳇ…ⳉ…ⳋ…ⳍ…ⳏ…ⳑ…ⳓ…ⳕ…ⳗ…ⳙ…ⳛ…ⳝ…ⳟ…ⳡ…ⳣ"),
  (0x2ceb, "ⳬ…ⳮ…………ⳳ"), (0x2d6f, "ⵡ"), (0x2e9f, "母"), (0x2ef3, "龟"),
  (0x2f00, "
一丨丶丿乙亅二亠人儿入八冂冖冫几凵刀力勹匕匚匸十卜卩厂厶又口囗土士夂夊夕大女子宀寸小尢尸屮山巛工
己巾干幺广廴廾弋弓彐彡彳心戈戶手支攴文斗斤方无日曰月木欠止歹殳毋比毛氏气水火爪父爻爿片牙牛犬玄玉
瓜瓦甘生用田疋疒癶白皮皿目矛矢石示禸禾穴立竹米糸缶网羊羽老而耒耳聿肉臣自至臼舌舛舟艮色艸虍虫血行
衣襾見角言谷豆豕豸貝赤走足身車辛辰辵邑酉釆里金長門阜隶隹雨靑非面革韋韭音頁風飛食首香馬骨高髟鬥鬯
鬲鬼魚鳥鹵鹿麥麻黃黍黑黹黽鼎鼓鼠鼻齊齒龍龜龠"),
  (0x3000, "\u0020…."), (0x3036, "〒…十卄卅"), (0x309b, "«\u0020\u3099»«\u0020\u309a»……«より»"),
  (0x30ff, "«コト»"),
  (0x3131, "
ᄀᄁᆪᄂᆬᆭᄃᄄᄅᆰᆱᆲᆳᆴᆵᄚᄆᄇᄈᄡᄉᄊᄋᄌᄍᄎᄏᄐᄑ하ᅢᅣᅤᅥᅦᅧᅨᅩᅪᅫᅬᅭᅮᅯᅰᅱᅲᅳᅴᅵ…ᄔᄕᇇᇈᇌᇎᇓᇗᇙᄜᇝᇟᄝᄞᄠᄢ
ᄣᄧᄩᄫᄬᄭᄮᄯᄲᄶᅀᅇᅌᇱᇲᅗᅘᅙᆄᆅᆈᆑᆒᆔᆞᆡ………一二三四上中下甲乙丙丁天地人"),
  (0x3200, "
«(ᄀ)»«(ᄂ)»«(ᄃ)»«(ᄅ)»«(ᄆ)»«(ᄇ)»«(ᄉ)»«(ᄋ)»«(ᄌ)»«(ᄎ)»«(ᄏ)»«(ᄐ)»«(ᄑ)»«(ᄒ)»«(가)»«(나)»
«(다)»«(라)»«(마)»«(바)»«(사)»«(아)»«(자)»«(차)»«(카)»«(타)»«(파)»«(하)»«(주)»«(오전)»«(오후)»…
«(一)»«(二)»«(三)»«(四)»«(五)»«(六)»«(七)»«(八)»«(九)»«(十)»«(月)»«(火)»«(水)»«(木)»«(金)»«(土)»
«(日)»«(株)»«(有)»«(社)»«(名)»«(特)»«(財)»«(祝)»«(労)»«(代)»«(呼)»«(学)»«(監)»«(企)»«(資)»«(協)»
«(祭)»«(休)»«(自)»«(至)»問幼文箏"),
  (0x3250, "
«pte»«21»«22»«23»«24»«25»«26»«27»«28»«29»«30»«31»«32»«33»«34»«35»ᄀᄂᄃᄅᄆᄇᄉᄋᄌᄎᄏᄐᄑᄒ가
나다라마바사아자차카타파하«참고»«주의»우…一二三四五六七八九十月火水木金土日株有社名特財祝労秘男
女適優印注項休写正上中下左右医宗学監企資協夜«36»«37»«38»«39»«40»«41»«42»«43»«44»«45»«46»«47»«48»
«49»«50»«1月»«2月»«3月»«4月»«5月»«6月»«7月»«8月»«9月»«10月»«11月»«12月»«hg»«erg»«ev»«ltd»アイウ
エオカキクケコサシスセソタチツテトナニヌネノハヒフヘホマミムメモヤユヨラリルレロワヰヱヲ«令和»
«アパート»«アルファ»«アンペア»«アール»«イニング»«インチ»«ウォン»«エスクード»«エーカー»«オンス»
«オーム»«カイリ»«カラット»«カロリー»«ガロン»«ガンマ»«ギガ»«ギニー»«キュリー»«ギルダー»«キロ»
«キログラム»«キロメートル»«キロワット»«グラム»«グラムトン»«クルゼイロ»«クローネ»«ケース»«コルナ»
«コーポ»«サイクル»«サンチーム»«シリング»«センチ»«セント»«ダース»«デシ»«ドル»«トン»«ナノ»«ノット»
«ハイツ»«パーセント»«パーツ»«バーレル»«ピアストル»«ピクル»«ピコ»«ビル»«ファラッド»«フィート»
«ブッシェル»«フラン»«ヘクタール»«ペソ»«ペニヒ»«ヘルツ»«ペンス»«ページ»«ベータ»«ポイント»«ボルト»
«ホン»«ポンド»«ホール»«ホーン»«マイクロ»«マイル»«マッハ»«マルク»«マンション»«ミクロン»«ミリ»
«ミリバール»«メガ»«メガトン»«メートル»«ヤード»«ヤール»«ユアン»«リットル»«リラ»«ルピー»«ルーブル»
«レム»«レントゲン»«ワット»«0点»«1点»«2点»«3点»«4点»«5点»«6点»«7点»«8点»«9点»«10点»«11点»«12点»
«13点»«14点»«15点»«16点»«17点»«18点»«19点»«20点»«21点»«22点»«23点»«24点»«hpa»«da»«au»«bar»«ov»
«pc»«dm»«dm2»«dm3»«iu»«平成»«昭和»«大正»«明治»«株式会社»«pa»«na»«μa»«ma»«ka»«kb»«mb»«gb»«cal»
«kcal»«pf»«nf»«μf»«μg»«mg»«kg»«hz»«khz»«mhz»«ghz»«thz»«μl»«ml»«dl»«kl»«fm»«nm»«μm»«mm»«cm»«km»
«mm2»«cm2»«m2»«km2»«mm3»«cm3»«m3»«km3»«m∕s»«m∕s2»«pa»«kpa»«mpa»«gpa»«rad»«rad∕s»«rad∕s2»«ps»«ns»
«μs»«ms»«pv»«nv»«μv»«mv»«kv»«mv»«pw»«nw»«μw»«mw»«kw»«mw»«kω»«mω»…«bq»«cc»«cd»«c∕kg»…«db»«gy»«ha»
«hp»«in»«kk»«km»«kt»«lm»«ln»«log»«lx»«mb»«mil»«mol»«ph»…«ppm»«pr»«sr»«sv»«wb»«v∕m»«a∕m»«1日»
«2日»«3日»«4日»«5日»«6日»«7日»«8日»«9日»«10日»«11日»«12日»«13日»«14日»«15日»«16日»«17日»«18日»
«19日»«20日»«21日»«22日»«23日»«24日»«25日»«26日»«27日»«28日»«29日»«30日»«31日»«gal»"),
  (0xa640, "ꙁ…ꙃ…ꙅ…ꙇ…ꙉ…ꙋ…ꙍ…ꙏ…ꙑ…ꙓ…ꙕ…ꙗ…ꙙ…ꙛ…ꙝ…ꙟ…ꙡ…ꙣ…ꙥ…ꙧ…ꙩ…ꙫ…ꙭ"), (0xa680, "ꚁ…ꚃ…ꚅ…ꚇ…ꚉ…ꚋ…ꚍ…ꚏ…ꚑ…ꚓ…ꚕ…ꚗ…ꚙ…ꚛ…ъь"),
  (0xa722, "ꜣ…ꜥ…ꜧ…ꜩ…ꜫ…ꜭ…ꜯ………ꜳ…ꜵ…ꜷ…ꜹ…ꜻ…ꜽ…ꜿ…ꝁ…ꝃ…ꝅ…ꝇ…ꝉ…ꝋ…ꝍ…ꝏ…ꝑ…ꝓ…ꝕ…ꝗ…ꝙ…ꝛ…ꝝ…ꝟ…ꝡ…ꝣ…ꝥ…ꝧ…ꝩ…ꝫ…ꝭ…ꝯ…ꝯ"),
  (0xa779, "
ꝺ…ꝼ…ᵹꝿ…ꞁ…ꞃ…ꞅ…ꞇ…………ꞌ…ɥ……ꞑ…ꞓ………ꞗ…ꞙ…ꞛ…ꞝ…ꞟ…ꞡ…ꞣ…ꞥ…ꞧ…ꞩ…ɦɜɡɬɪ…ʞʇʝꭓꞵ…ꞷ…ꞹ…ꞻ…ꞽ…ꞿ…ꟁ…ꟃ…ꞔʂᶎꟈ…ꟊ…ɤ\ua7cd…\ua7cf
…ꟑ…ꟓ…ꟕ…ꟗ…ꟙ…\ua7db…ƛ"),
  (0xa7f1, "scfqꟶ……ħœ"), (0xab5c, "ꜧꬷɫꭒ"),
  (0xab69, "ʍ………………ᎠᎡᎢᎣᎤᎥᎦᎧᎨᎩᎪᎫᎬᎭᎮᎯᎰᎱᎲᎳᎴᎵᎶᎷᎸᎹᎺᎻᎼᎽᎾᎿᏀᏁᏂᏃᏄᏅᏆᏇᏈᏉᏊᏋᏌᏍᏎᏏᏐᏑᏒᏓᏔᏕᏖᏗᏘᏙᏚᏛᏜᏝᏞᏟᏠᏡᏢᏣᏤᏥᏦᏧᏨᏩᏪᏫᏬᏭᏮᏯ"),
  (0xf900, "
豈更車賈滑串句龜龜契金喇奈懶癩羅蘿螺裸邏樂洛烙珞落酪駱亂卵欄爛蘭鸞嵐濫藍襤拉臘蠟廊朗浪狼郎來冷勞
擄櫓爐盧老蘆虜路露魯鷺碌祿綠菉錄鹿論壟弄籠聾牢磊賂雷壘屢樓淚漏累縷陋勒肋凜凌稜綾菱陵讀拏樂諾丹寧
怒率異北磻便復不泌數索參塞省葉說殺辰沈拾若掠略亮兩凉梁糧良諒量勵呂女廬旅濾礪閭驪麗黎力曆歷轢年憐
戀撚漣煉璉秊練聯輦蓮連鍊列劣咽烈裂說廉念捻殮簾獵令囹寧嶺怜玲瑩羚聆鈴零靈領例禮醴隸惡了僚寮尿料樂
燎療蓼遼龍暈阮劉杻柳流溜琉留硫紐類六戮陸倫崙淪輪律慄栗率隆利吏履易李梨泥理痢罹裏裡里離匿溺吝燐璘
藺隣鱗麟林淋臨立笠粒狀炙識什茶刺切度拓糖宅洞暴輻行降見廓兀嗀……塚…晴……凞猪益礼神祥福靖精羽…蘒…諸…
…逸都………飯飼館鶴郞隷侮僧免勉勤卑喝嘆器塀墨層屮悔慨憎懲敏既暑梅海渚漢煮爫琢碑社祉祈祐祖祝禍禎穀突
節練縉繁署者臭艹艹著褐視謁謹賓贈辶逸難響頻恵𤋮舘……並况全侀充冀勇勺喝啕喙嗢塚墳奄奔婢嬨廒廙彩徭惘
慎愈憎慠懲戴揄搜摒敖晴朗望杖歹殺流滛滋漢瀞煮瞧爵犯猪瑱甆画瘝瘟益盛直睊着磌窱節类絛練缾者荒華蝹襁
覆視調諸請謁諾諭謹變贈輸遲醙鉶陼難靖韛響頋頻鬒龜𢡊𢡄𣏕㮝䀘䀹𥉉𥳐𧻓齃龎"),
  (0xfb00, "«ff»«fi»«fl»«ffi»«ffl»«st»«st»"),
  (0xfb13, "
«մն»«մե»«մի»«վն»«մխ»……………«\u05d9\u05b4»…«\u05f2\u05b7»\u05e2\u05d0\u05d3\u05d4\u05db\u05dc\u05dd
\u05e8\u05ea+«\u05e9\u05c1»«\u05e9\u05c2»«\u05e9\u05bc\u05c1»«\u05e9\u05bc\u05c2»«\u05d0\u05b7»
«\u05d0\u05b8»«\u05d0\u05bc»«\u05d1\u05bc»«\u05d2\u05bc»«\u05d3\u05bc»«\u05d4\u05bc»
«\u05d5\u05bc»«\u05d6\u05bc»…«\u05d8\u05bc»«\u05d9\u05bc»«\u05da\u05bc»«\u05db\u05bc»
«\u05dc\u05bc»…«\u05de\u05bc»…«\u05e0\u05bc»«\u05e1\u05bc»…«\u05e3\u05bc»«\u05e4\u05bc»…
«\u05e6\u05bc»«\u05e7\u05bc»«\u05e8\u05bc»«\u05e9\u05bc»«\u05ea\u05bc»«\u05d5\u05b9»
«\u05d1\u05bf»«\u05db\u05bf»«\u05e4\u05bf»«\u05d0\u05dc»\u0671\u0671\u067b\u067b\u067b\u067b
\u067e\u067e\u067e\u067e\u0680\u0680\u0680\u0680\u067a\u067a\u067a\u067a\u067f\u067f\u067f\u067f
\u0679\u0679\u0679\u0679\u06a4\u06a4\u06a4\u06a4\u06a6\u06a6\u06a6\u06a6\u0684\u0684\u0684\u0684
\u0683\u0683\u0683\u0683\u0686\u0686\u0686\u0686\u0687\u0687\u0687\u0687\u068d\u068d\u068c\u068c
\u068e\u068e\u0688\u0688\u0698\u0698\u0691\u0691\u06a9\u06a9\u06a9\u06a9\u06af\u06af\u06af\u06af
\u06b3\u06b3\u06b3\u06b3\u06b1\u06b1\u06b1\u06b1\u06ba\u06ba\u06bb\u06bb\u06bb\u06bb\u06c0\u06c0
\u06c1\u06c1\u06c1\u06c1\u06be\u06be\u06be\u06be\u06d2\u06d2\u06d3\u06d3"),
  (0xfbd3, "
\u06ad\u06ad\u06ad\u06ad\u06c7\u06c7\u06c6\u06c6\u06c8\u06c8«\u06c7\u0674»\u06cb\u06cb\u06c5
\u06c5\u06c9\u06c9\u06d0\u06d0\u06d0\u06d0\u0649\u0649«\u0626\u0627»«\u0626\u0627»«\u0626\u06d5»
«\u0626\u06d5»«\u0626\u0648»«\u0626\u0648»«\u0626\u06c7»«\u0626\u06c7»«\u0626\u06c6»
«\u0626\u06c6»«\u0626\u06c8»«\u0626\u06c8»«\u0626\u06d0»«\u0626\u06d0»«\u0626\u06d0»
«\u0626\u0649»«\u0626\u0649»«\u0626\u0649»\u06cc\u06cc\u06cc\u06cc«\u0626\u062c»«\u0626\u062d»
«\u0626\u0645»«\u0626\u0649»«\u0626\u064a»«\u0628\u062c»«\u0628\u062d»«\u0628\u062e»
«\u0628\u0645»«\u0628\u0649»«\u0628\u064a»«\u062a\u062c»«\u062a\u062d»«\u062a\u062e»
«\u062a\u0645»«\u062a\u0649»«\u062a\u064a»«\u062b\u062c»«\u062b\u0645»«\u062b\u0649»
«\u062b\u064a»«\u062c\u062d»«\u062c\u0645»«\u062d\u062c»«\u062d\u0645»«\u062e\u062c»
«\u062e\u062d»«\u062e\u0645»«\u0633\u062c»«\u0633\u062d»«\u0633\u062e»«\u0633\u0645»
«\u0635\u062d»«\u0635\u0645»«\u0636\u062c»«\u0636\u062d»«\u0636\u062e»«\u0636\u0645»
«\u0637\u062d»«\u0637\u0645»«\u0638\u0645»«\u0639\u062c»«\u0639\u0645»«\u063a\u062c»
«\u063a\u0645»«\u0641\u062c»«\u0641\u062d»«\u0641\u062e»«\u0641\u0645»«\u0641\u0649»
«\u0641\u064a»«\u0642\u062d»«\u0642\u0645»«\u0642\u0649»«\u0642\u064a»«\u0643\u0627»
«\u0643\u062c»«\u0643\u062d»«\u0643\u062e»«\u0643\u0644»«\u0643\u0645»«\u0643\u0649»
«\u0643\u064a»«\u0644\u062c»«\u0644\u062d»«\u0644\u062e»«\u0644\u0645»«\u0644\u0649»
«\u0644\u064a»«\u0645\u062c»«\u0645\u062d»«\u0645\u062e»«\u0645\u0645»«\u0645\u0649»
«\u0645\u064a»«\u0646\u062c»«\u0646\u062d»«\u0646\u062e»«\u0646\u0645»«\u0646\u0649»
«\u0646\u064a»«\u0647\u062c»«\u0647\u0645»«\u0647\u0649»«\u0647\u064a»«\u064a\u062c»
«\u064a\u062d»«\u064a\u062e»«\u064a\u0645»«\u064a\u0649»«\u064a\u064a»«\u0630\u0670»
«\u0631\u0670»«\u0649\u0670»«\u0020\u064c\u0651»«\u0020\u064d\u0651»«\u0020\u064e\u0651»
«\u0020\u064f\u0651»«\u0020\u0650\u0651»«\u0020\u0651\u0670»«\u0626\u0631»«\u0626\u0632»
«\u0626\u0645»«\u0626\u0646»«\u0626\u0649»«\u0626\u064a»«\u0628\u0631»«\u0628\u0632»
«\u0628\u0645»«\u0628\u0646»«\u0628\u0649»«\u0628\u064a»«\u062a\u0631»«\u062a\u0632»
«\u062a\u0645»«\u062a\u0646»«\u062a\u0649»«\u062a\u064a»«\u062b\u0631»«\u062b\u0632»
«\u062b\u0645»«\u062b\u0646»«\u062b\u0649»«\u062b\u064a»«\u0641\u0649»«\u0641\u064a»
«\u0642\u0649»«\u0642\u064a»«\u0643\u0627»«\u0643\u0644»«\u0643\u0645»«\u0643\u0649»
«\u0643\u064a»«\u0644\u0645»«\u0644\u0649»«\u0644\u064a»«\u0645\u0627»«\u0645\u0645»
«\u0646\u0631»«\u0646\u0632»«\u0646\u0645»«\u0646\u0646»«\u0646\u0649»«\u0646\u064a»
«\u0649\u0670»«\u064a\u0631»«\u064a\u0632»«\u064a\u0645»«\u064a\u0646»«\u064a\u0649»
«\u064a\u064a»«\u0626\u062c»«\u0626\u062d»«\u0626\u062e»«\u0626\u0645»«\u0626\u0647»
«\u0628\u062c»«\u0628\u062d»«\u0628\u062e»«\u0628\u0645»«\u0628\u0647»«\u062a\u062c»
«\u062a\u062d»«\u062a\u062e»«\u062a\u0645»«\u062a\u0647»«\u062b\u0645»«\u062c\u062d»
«\u062c\u0645»«\u062d\u062c»«\u062d\u0645»«\u062e\u062c»«\u062e\u0645»«\u0633\u062c»
«\u0633\u062d»«\u0633\u062e»«\u0633\u0645»«\u0635\u062d»«\u0635\u062e»«\u0635\u0645»
«\u0636\u062c»«\u0636\u062d»«\u0636\u062e»«\u0636\u0645»«\u0637\u062d»«\u0638\u0645»
«\u0639\u062c»«\u0639\u0645»«\u063a\u062c»«\u063a\u0645»«\u0641\u062c»«\u0641\u062d»
«\u0641\u062e»«\u0641\u0645»«\u0642\u062d»«\u0642\u0645»«\u0643\u062c»«\u0643\u062d»
«\u0643\u062e»«\u0643\u0644»«\u0643\u0645»«\u0644\u062c»«\u0644\u062d»«\u0644\u062e»
«\u0644\u0645»«\u0644\u0647»«\u0645\u062c»«\u0645\u062d»«\u0645\u062e»«\u0645\u0645»
«\u0646\u062c»«\u0646\u062d»«\u0646\u062e»«\u0646\u0645»«\u0646\u0647»«\u0647\u062c»
«\u0647\u0645»«\u0647\u0670»«\u064a\u062c»«\u064a\u062d»«\u064a\u062e»«\u064a\u0645»
«\u064a\u0647»«\u0626\u0645»«\u0626\u0647»«\u0628\u0645»«\u0628\u0647»«\u062a\u0645»
«\u062a\u0647»«\u062b\u0645»«\u062b\u0647»«\u0633\u0645»«\u0633\u0647»«\u0634\u0645»
«\u0634\u0647»«\u0643\u0644»«\u0643\u0645»«\u0644\u0645»«\u0646\u0645»«\u0646\u0647»
«\u064a\u0645»«\u064a\u0647»«\u0640\u064e\u0651»«\u0640\u064f\u0651»«\u0640\u0650\u0651»
«\u0637\u0649»«\u0637\u064a»«\u0639\u0649»«\u0639\u064a»«\u063a\u0649»«\u063a\u064a»
«\u0633\u0649»«\u0633\u064a»«\u0634\u0649»«\u0634\u064a»«\u062d\u0649»«\u062d\u064a»
«\u062c\u0649»«\u062c\u064a»«\u062e\u0649»«\u062e\u064a»«\u0635\u0649»«\u0635\u064a»
«\u0636\u0649»«\u0636\u064a»«\u0634\u062c»«\u0634\u062d»«\u0634\u062e»«\u0634\u0645»
«\u0634\u0631»«\u0633\u0631»«\u0635\u0631»«\u0636\u0631»«\u0637\u0649»«\u0637\u064a»
«\u0639\u0649»«\u0639\u064a»«\u063a\u0649»«\u063a\u064a»«\u0633\u0649»«\u0633\u064a»
«\u0634\u0649»«\u0634\u064a»«\u062d\u0649»«\u062d\u064a»«\u062c\u0649»«\u062c\u064a»
«\u062e\u0649»«\u062e\u064a»«\u0635\u0649»«\u0635\u064a»«\u0636\u0649»«\u0636\u064a»
«\u0634\u062c»«\u0634\u062d»«\u0634\u062e»«\u0634\u0645»«\u0634\u0631»«\u0633\u0631»
«\u0635\u0631»«\u0636\u0631»«\u0634\u062c»«\u0634\u062d»«\u0634\u062e»«\u0634\u0645»
«\u0633\u0647»«\u0634\u0647»«\u0637\u0645»«\u0633\u062c»«\u0633\u062d»«\u0633\u062e»
«\u0634\u062c»«\u0634\u062d»«\u0634\u062e»«\u0637\u0645»«\u0638\u0645»«\u0627\u064b»
«\u0627\u064b»"),
  (0xfd50, "
«\u062a\u062c\u0645»«\u062a\u062d\u062c»«\u062a\u062d\u062c»«\u062a\u062d\u0645»
«\u062a\u062e\u0645»«\u062a\u0645\u062c»«\u062a\u0645\u062d»«\u062a\u0645\u062e»
«\u062c\u0645\u062d»«\u062c\u0645\u062d»«\u062d\u0645\u064a»«\u062d\u0645\u0649»
«\u0633\u062d\u062c»«\u0633\u062c\u062d»«\u0633\u062c\u0649»«\u0633\u0645\u062d»
«\u0633\u0645\u062d»«\u0633\u0645\u062c»«\u0633\u0645\u0645»«\u0633\u0645\u0645»
«\u0635\u062d\u062d»«\u0635\u062d\u062d»«\u0635\u0645\u0645»«\u0634\u062d\u0645»
«\u0634\u062d\u0645»«\u0634\u062c\u064a»«\u0634\u0645\u062e»«\u0634\u0645\u062e»
«\u0634\u0645\u0645»«\u0634\u0645\u0645»«\u0636\u062d\u0649»«\u0636\u062e\u0645»
«\u0636\u062e\u0645»«\u0637\u0645\u062d»«\u0637\u0645\u062d»«\u0637\u0645\u0645»
«\u0637\u0645\u064a»«\u0639\u062c\u0645»«\u0639\u0645\u0645»«\u0639\u0645\u0645»
«\u0639\u0645\u0649»«\u063a\u0645\u0645»«\u063a\u0645\u064a»«\u063a\u0645\u0649»
«\u0641\u062e\u0645»«\u0641\u062e\u0645»«\u0642\u0645\u062d»«\u0642\u0645\u0645»
«\u0644\u062d\u0645»«\u0644\u062d\u064a»«\u0644\u062d\u0649»«\u0644\u062c\u062c»
«\u0644\u062c\u062c»«\u0644\u062e\u0645»«\u0644\u062e\u0645»«\u0644\u0645\u062d»
«\u0644\u0645\u062d»«\u0645\u062d\u062c»«\u0645\u062d\u0645»«\u0645\u062d\u064a»
«\u0645\u062c\u062d»«\u0645\u062c\u0645»«\u0645\u062e\u062c»«\u0645\u062e\u0645»……
«\u0645\u062c\u062e»«\u0647\u0645\u062c»«\u0647\u0645\u0645»«\u0646\u062d\u0645»
«\u0646\u062d\u0649»«\u0646\u062c\u0645»«\u0646\u062c\u0645»«\u0646\u062c\u0649»
«\u0646\u0645\u064a»«\u0646\u0645\u0649»«\u064a\u0645\u0645»«\u064a\u0645\u0645»
«\u0628\u062e\u064a»«\u062a\u062c\u064a»«\u062a\u062c\u0649»«\u062a\u062e\u064a»
«\u062a\u062e\u0649»«\u062a\u0645\u064a»«\u062a\u0645\u0649»«\u062c\u0645\u064a»
«\u062c\u062d\u0649»«\u062c\u0645\u0649»«\u0633\u062e\u0649»«\u0635\u062d\u064a»
«\u0634\u062d\u064a»«\u0636\u062d\u064a»«\u0644\u062c\u064a»«\u0644\u0645\u064a»
«\u064a\u062d\u064a»«\u064a\u062c\u064a»«\u064a\u0645\u064a»«\u0645\u0645\u064a»
«\u0642\u0645\u064a»«\u0646\u062d\u064a»«\u0642\u0645\u062d»«\u0644\u062d\u0645»
«\u0639\u0645\u064a»«\u0643\u0645\u064a»«\u0646\u062c\u062d»«\u0645\u062e\u064a»
«\u0644\u062c\u0645»«\u0643\u0645\u0645»«\u0644\u062c\u0645»«\u0646\u062c\u062d»
«\u062c\u062d\u064a»«\u062d\u062c\u064a»«\u0645\u062c\u064a»«\u0641\u0645\u064a»
«\u0628\u062d\u064a»«\u0643\u0645\u0645»«\u0639\u062c\u0645»«\u0635\u0645\u0645»
«\u0633\u062e\u064a»«\u0646\u062c\u064a»"),
  (0xfdf0, "
«\u0635\u0644\u06d2»«\u0642\u0644\u06d2»«\u0627\u0644\u0644\u0647»«\u0627\u0643\u0628\u0631»
«\u0645\u062d\u0645\u062f»«\u0635\u0644\u0639\u0645»«\u0631\u0633\u0648\u0644»
«\u0639\u0644\u064a\u0647»«\u0648\u0633\u0644\u0645»«\u0635\u0644\u0649»
«\u0635\u0644\u0649\u0020\u0627\u0644\u0644\u0647\u0020\u0639\u0644\u064a\u0647\u0020\u0648\u0633\u0644\u0645»
«\u062c\u0644\u0020\u062c\u0644\u0627\u0644\u0647»«\u0631\u06cc\u0627\u0644»"),
  (0xfe10, ",、…:;!?〖〗"),
  (0xfe31, "
—–__()\u007b\u007d〔〕【】《》〈〉「」『』……[]«\u0020\u0305»«\u0020\u0305»«\u0020\u0305»
«\u0020\u0305»___,、……;:?!—()\u007b\u007d〔〕#&*+-<>=…\\$%@…………«\u0020\u064b»«\u0640\u064b»
«\u0020\u064c»…«\u0020\u064d»…«\u0020\u064e»«\u0640\u064e»«\u0020\u064f»«\u0640\u064f»
«\u0020\u0650»«\u0640\u0650»«\u0020\u0651»«\u0640\u0651»«\u0020\u0652»«\u0640\u0652»\u0621\u0622
\u0622\u0623\u0623\u0624\u0624\u0625\u0625\u0626\u0626\u0626\u0626\u0627\u0627\u0628\u0628\u0628
\u0628\u0629\u0629\u062a\u062a\u062a\u062a\u062b\u062b\u062b\u062b\u062c\u062c\u062c\u062c\u062d
\u062d\u062d\u062d\u062e\u062e\u062e\u062e\u062f\u062f\u0630\u0630\u0631\u0631\u0632\u0632\u0633
\u0633\u0633\u0633\u0634\u0634\u0634\u0634\u0635\u0635\u0635\u0635\u0636\u0636\u0636\u0636\u0637
\u0637\u0637\u0637\u0638\u0638\u0638\u0638\u0639\u0639\u0639\u0639\u063a\u063a\u063a\u063a\u0641
\u0641\u0641\u0641\u0642\u0642\u0642\u0642\u0643\u0643\u0643\u0643\u0644\u0644\u0644\u0644\u0645
\u0645\u0645\u0645\u0646\u0646\u0646\u0646\u0647\u0647\u0647\u0647\u0648\u0648\u0649\u0649\u064a
\u064a\u064a\u064a«\u0644\u0622»«\u0644\u0622»«\u0644\u0623»«\u0644\u0623»«\u0644\u0625»
«\u0644\u0625»«\u0644\u0627»«\u0644\u0627»…………!\"#$%&'()*+,-./0123456789:;<=>?@abcdefghijklmnopq
rstuvwxyz[\\]^_\u0060abcdefghijklmnopqrstuvwxyz\u007b|\u007d~⦅⦆.「」、・ヲァィゥェォャュョッーア
イウエオカキクケコサシスセソタチツテトナニヌネノハヒフヘホマミムメモヤユヨラリルレロワン\u3099
\u309a…ᄀᄁᆪᄂᆬᆭᄃᄄᄅᆰᆱᆲᆳᆴᆵᄚᄆᄇᄈᄡᄉᄊᄋᄌᄍᄎᄏᄐᄑᄒ………ᅡᅢᅣᅤᅥᅦ……ᅧᅨᅩᅪᅫᅬ……ᅭᅮᅯᅰᅱᅲ……ᅳᅴᅵ………¢£¬
«\u0020\u0304»¦¥₩…│←↑→↓■○"),
  (0x10400, "𐐨𐐩𐐪𐐫𐐬𐐭𐐮𐐯𐐰𐐱𐐲𐐳𐐴𐐵𐐶𐐷𐐸𐐹𐐺𐐻𐐼𐐽𐐾𐐿𐑀𐑁𐑂𐑃𐑄𐑅𐑆𐑇𐑈𐑉𐑊𐑋𐑌𐑍𐑎𐑏"), (0x104b0, "𐓘𐓙𐓚𐓛𐓜𐓝𐓞𐓟𐓠𐓡𐓢𐓣𐓤𐓥𐓦𐓧𐓨𐓩𐓪𐓫𐓬𐓭𐓮𐓯𐓰𐓱𐓲𐓳𐓴𐓵𐓶𐓷𐓸𐓹𐓺𐓻"),
  (0x10570, "𐖗𐖘𐖙𐖚𐖛𐖜𐖝𐖞𐖟𐖠𐖡…𐖣𐖤𐖥𐖦𐖧𐖨𐖩𐖪𐖫𐖬𐖭𐖮𐖯𐖰𐖱…𐖳𐖴𐖵𐖶𐖷𐖸𐖹…𐖻𐖼"),
  (0x10781, "ːˑæʙɓ…ʣꭦʥʤɖɗᶑɘɞʩɤɢɠʛħʜɧʄʪʫɬ𝼄ꞎɮ𝼅ʎ𝼆øɶɷqɺ𝼈ɽɾʀʨʦꭧʧʈⱱ…ʏʡʢʘǀǁǂ𝼊𝼞"),
  (0x10c80, "𐳀𐳁𐳂𐳃𐳄𐳅𐳆𐳇𐳈𐳉𐳊𐳋𐳌𐳍𐳎𐳏𐳐𐳑𐳒𐳓𐳔𐳕𐳖𐳗𐳘𐳙𐳚𐳛𐳜𐳝𐳞𐳟𐳠𐳡𐳢𐳣𐳤𐳥𐳦𐳧𐳨𐳩𐳪𐳫𐳬𐳭𐳮𐳯𐳰𐳱𐳲"),
  (0x10d50, "𐵰𐵱𐵲𐵳𐵴𐵵𐵶𐵷𐵸𐵹𐵺𐵻𐵼𐵽𐵾𐵿𐶀𐶁𐶂𐶃𐶄𐶅"), (0x118a0, "𑣀𑣁𑣂𑣃𑣄𑣅𑣆𑣇𑣈𑣉𑣊𑣋𑣌𑣍𑣎𑣏𑣐𑣑𑣒𑣓𑣔𑣕𑣖𑣗𑣘𑣙𑣚𑣛𑣜𑣝𑣞𑣟"),
  (0x16e40, "𖹠𖹡𖹢𖹣𖹤𖹥𖹦𖹧𖹨𖹩𖹪𖹫𖹬𖹭𖹮𖹯𖹰𖹱𖹲𖹳𖹴𖹵𖹶𖹷𖹸𖹹𖹺𖹻𖹼𖹽𖹾𖹿"),
  (0x16ea0, "𖺻𖺼𖺽𖺾𖺿𖻀𖻁𖻂𖻃𖻄𖻅𖻆𖻇𖻈𖻉𖻊𖻋𖻌𖻍𖻎𖻏𖻐𖻑𖻒𖻓"),
  (0x1ccd6, "abcdefghijklmnopqrstuvwxyz0123456789"), (0x1d15e, "«𝅗𝅥»«𝅘𝅥»«𝅘𝅥𝅮»«𝅘𝅥𝅯»«𝅘𝅥𝅰»«𝅘𝅥𝅱»«𝅘𝅥𝅲»"),
  (0x1d1bb, "«𝆹𝅥»«𝆺𝅥»«𝆹𝅥𝅮»«𝆺𝅥𝅮»«𝆹𝅥𝅯»«𝆺𝅥𝅯»"),
  (0x1d400, "
abcdefghijklmnopqrstuvwxyzabcdefghijklmnopqrstuvwxyzabcdefghijklmnopqrstuvwxyzabcdefg…ijklmnopqr
stuvwxyzabcdefghijklmnopqrstuvwxyzabcdefghijklmnopqrstuvwxyza…cd……g……jk……nopq…stuvwxyzabcd…f…hij
klmn…pqrstuvwxyzabcdefghijklmnopqrstuvwxyzabcdefghijklmnopqrstuvwxyzab…defg……jklmnopq…stuvwxy…ab
cdefghijklmnopqrstuvwxyzab…defg…ijklm…o………stuvwxy…abcdefghijklmnopqrstuvwxyzabcdefghijklmnopqrst
uvwxyzabcdefghijklmnopqrstuvwxyzabcdefghijklmnopqrstuvwxyzabcdefghijklmnopqrstuvwxyzabcdefghijkl
mnopqrstuvwxyzabcdefghijklmnopqrstuvwxyzabcdefghijklmnopqrstuvwxyzabcdefghijklmnopqrstuvwxyzabcd
efghijklmnopqrstuvwxyzabcdefghijklmnopqrstuvwxyzabcdefghijklmnopqrstuvwxyzabcdefghijklmnopqrstuv
wxyzıȷ……αβγδεζηθικλμνξοπρθστυφχψω∇αβγδεζηθικλμνξοπρσστυφχψω∂εθκφρπαβγδεζηθικλμνξοπρθστυφχψω∇αβγδ
εζηθικλμνξοπρσστυφχψω∂εθκφρπαβγδεζηθικλμνξοπρθστυφχψω∇αβγδεζηθικλμνξοπρσστυφχψω∂εθκφρπαβγδεζηθικ
λμνξοπρθστυφχψω∇αβγδεζηθικλμνξοπρσστυφχψω∂εθκφρπαβγδεζηθικλμνξοπρθστυφχψω∇αβγδεζηθικλμνξοπρσστυφ
χψω∂εθκφρπϝϝ……01234567890123456789012345678901234567890123456789"),
  (0x1e030, "абвгдежзиклмопрстуфхцчшыэюꚉәіјөүӏабвгдежзиклопсуфхцчшъыґіѕџҫꙑұ"),
  (0x1e900, "𞤢𞤣𞤤𞤥𞤦𞤧𞤨𞤩𞤪𞤫𞤬𞤭𞤮𞤯𞤰𞤱𞤲𞤳𞤴𞤵𞤶𞤷𞤸𞤹𞤺𞤻𞤼𞤽𞤾𞤿𞥀𞥁𞥂𞥃"),
  (0x1ee00, "
\u0627\u0628\u062c\u062f…\u0648\u0632\u062d\u0637\u064a\u0643\u0644\u0645\u0646\u0633\u0639
\u0641\u0635\u0642\u0631\u0634\u062a\u062b\u062e\u0630\u0636\u0638\u063a\u066e\u06ba\u06a1\u066f
…\u0628\u062c…\u0647……\u062d…\u064a\u0643\u0644\u0645\u0646\u0633\u0639\u0641\u0635\u0642…\u0634
\u062a\u062b\u062e…\u0636…\u063a………………\u062c…………\u062d…\u064a…\u0644…\u0646\u0633\u0639…\u0635
\u0642…\u0634……\u062e…\u0636…\u063a…\u06ba…\u066f…\u0628\u062c…\u0647……\u062d\u0637\u064a\u0643…
\u0645\u0646\u0633\u0639\u0641\u0635\u0642…\u0634\u062a\u062b\u062e…\u0636\u0638\u063a\u066e…
\u06a1…\u0627\u0628\u062c\u062f\u0647\u0648\u0632\u062d\u0637\u064a…\u0644\u0645\u0646\u0633
\u0639\u0641\u0635\u0642\u0631\u0634\u062a\u062b\u062e\u0630\u0636\u0638\u063a……………\u0628\u062c
\u062f…\u0648\u0632\u062d\u0637\u064a…\u0644\u0645\u0646\u0633\u0639\u0641\u0635\u0642\u0631
\u0634\u062a\u062b\u062e\u0630\u0636\u0638\u063a"),
  (0x1f101, "
«0,»«1,»«2,»«3,»«4,»«5,»«6,»«7,»«8,»«9,»……………«(a)»«(b)»«(c)»«(d)»«(e)»«(f)»«(g)»«(h)»«(i)»«(j)»
«(k)»«(l)»«(m)»«(n)»«(o)»«(p)»«(q)»«(r)»«(s)»«(t)»«(u)»«(v)»«(w)»«(x)»«(y)»«(z)»«〔s〕»cr«cd»
«wz»…abcdefghijklmnopqrstuvwxyz«hv»«mv»«sd»«ss»«ppv»«wc»"),
  (0x1f16a, "«mc»«md»«mr»"), (0x1f190, "«dj»"), (0x1f200, "«ほか»«ココ»サ"),
  (0x1f210, "
手字双デ二多解天交映無料前後再新初終生販声吹演投捕一三遊左中右指走打禁空合満有月申割営配…………
«〔本〕»«〔三〕»«〔二〕»«〔安〕»«〔点〕»«〔打〕»«〔盗〕»«〔勝〕»«〔敗〕»…………………得可"),
  (0x1fbf0, "0123456789"),
  (0x2f800, "
丽丸乁𠄢你侮侻倂偺備僧像㒞𠘺免兔兤具𠔜㒹內再𠕋冗冤仌冬况𩇟凵刃㓟刻剆割剷㔕勇勉勤勺包匆北卉卑博即
卽卿卿卿𠨬灰及叟𠭣叫叱吆咞吸呈周咢哶唐啓啣善善喙喫喳嗂圖嘆圗噑噴切壮城埴堍型堲報墬𡓤売壷夆多夢奢
𡚨𡛪姬娛娧姘婦㛮㛼嬈嬾嬾𡧈寃寘寧寳𡬘寿将当尢㞁屠屮峀岍𡷤嵃𡷦嵮嵫嵼巡巢㠯巽帨帽幩㡢𢆃㡼庰庳庶廊𪎒
廾𢌱𢌱舁弢弢㣇𣊸𦇚形彫㣣徚忍志忹悁㤺㤜悔𢛔惇慈慌慎慌慺憎憲憤憯懞懲懶成戛扝抱拔捐𢬌挽拼捨掃揤𢯱搢
揅掩㨮摩摾撝摷㩬敏敬𣀊旣書晉㬙暑㬈㫤冒冕最暜肭䏙朗望朡杞杓𣏃㭉柺枅桒梅𣑭梎栟椔㮝楂榣槪檨𣚣櫛㰘次
𣢧歔㱎歲殟殺殻𣪍𡴋𣫺汎𣲼沿泍汧洖派海流浩浸涅𣴞洴港湮㴳滋滇𣻑淹潮𣽞𣾎濆瀹瀞瀛㶖灊災灷炭𠔥煅𤉣熜𤎫
爨爵牐𤘈犀犕𤜵𤠔獺王㺬玥㺸㺸瑇瑜瑱璅瓊㼛甤𤰶甾𤲒異𢆟瘐𤾡𤾸𥁄㿼䀈直𥃳𥃲𥄙𥄳眞真真睊䀹瞋䁆䂖𥐝硎碌
磌䃣𥘦祖𥚚𥛅福秫䄯穀穊穏𥥼𥪧𥪧竮䈂𥮫篆築䈧𥲀糒䊠糨糣紀𥾆絣䌁緇縂繅䌴𦈨𦉇䍙𦋙罺𦌾羕翺者𦓚𦔣聠𦖨聰
𣍟䏕育脃䐋脾媵𦞧𦞵𣎓𣎜舁舄辞䑫芑芋芝劳花芳芽苦𦬼若茝荣莭茣莽菧著荓菊菌菜𦰶𦵫𦳕䔫蓱蓳蔖𧏊蕤𦼬䕝䕡
𦾱𧃒䕫虐虜虧虩蚩蚈蜎蛢蝹蜨蝫螆䗗蟡蠁䗹衠衣𧙧裗裞䘵裺㒻𧢮𧥦䚾䛇誠諭變豕𧲨貫賁贛起𧼯𠠄跋趼跰𠣞軔輸
𨗒𨗭邔郱鄑𨜮鄛鈸鋗鋘鉼鏹鐕𨯺開䦕閷𨵷䧦雃嶲霣𩅅𩈚䩮䩶韠𩐊䪲𩒖頋頋頩𩖶飢䬳餩馧駂駾䯎𩬰鬒鱀鳽䳎䳭鵧
𪃎䳸𪄅𪈎𪊑麻䵖黹黾鼅鼏鼖鼻𪘀")]

def ignored : Ranges := .ofText "
ad 34f 115f-1160 17b4-17b5 180b-180f 200b 2060-2064 206a-206f 3164 fe00-fe0f feff ffa0 1bca0-1bca3
1d173-1d17a e0100-e01ef"

def refused : Ranges := .ofText "
80-9f 378-379 380-383 38b 38d 3a2 530 557-558 58b-58c 590 5c8-5cf 5eb-5ee 5f5-605 61c 6dd 70e-70f
74b-74c 7b2-7bf 7fb-7fc 82e-82f 83f 85c-85d 85f 86b-86f 890-896 8e2 984 98d-98e 991-992 9a9 9b1 9b3-9b5
9ba-9bb 9c5-9c6 9c9-9ca 9cf-9d6 9d8-9db 9de 9e4-9e5 9ff-a00 a04 a0b-a0e a11-a12 a29 a31 a34 a37 a3a-a3b
a3d a43-a46 a49-a4a a4e-a50 a52-a58 a5d a5f-a65 a77-a80 a84 a8e a92 aa9 ab1 ab4 aba-abb ac6 aca ace-acf
ad1-adf ae4-ae5 af2-af8 b00 b04 b0d-b0e b11-b12 b29 b31 b34 b3a-b3b b45-b46 b49-b4a b4e-b54 b58-b5b b5e
b64-b65 b78-b81 b84 b8b-b8d b91 b96-b98 b9b b9d ba0-ba2 ba5-ba7 bab-bad bba-bbd bc3-bc5 bc9 bce-bcf
bd1-bd6 bd8-be5 bfb-bff c0d c11 c29 c3a-c3b c45 c49 c4e-c54 c57 c5b c5e-c5f c64-c65 c70-c76 c8d c91 ca9
cb4 cba-cbb cc5 cc9 cce-cd4 cd7-cdb cdf ce4-ce5 cf0 cf4-cff d0d d11 d45 d49 d50-d53 d64-d65 d80 d84
d97-d99 db2 dbc dbe-dbf dc7-dc9 dcb-dce dd5 dd7 de0-de5 df0-df1 df5-e00 e3b-e3e e5c-e80 e83 e85 e8b ea4
ea6 ebe-ebf ec5 ec7 ecf eda-edb ee0-eff f48 f6d-f70 f98 fbd fcd fdb-fff 10c6 10c8-10cc 10ce-10cf 1249
124e-124f 1257 1259 125e-125f 1289 128e-128f 12b1 12b6-12b7 12bf 12c1 12c6-12c7 12d7 1311 1316-1317
135b-135c 137d-137f 139a-139f 13f6-13f7 13fe-13ff 1680 169d-169f 16f9-16ff 1716-171e 1737-173f 1754-175f
176d 1771 1774-177f 17de-17df 17ea-17ef 17fa-17ff 181a-181f 1879-187f 18ab-18af 18f6-18ff 191f 192c-192f
193c-193f 1941-1943 196e-196f 1975-197f 19ac-19af 19ca-19cf 19db-19dd 1a1c-1a1d 1a5f 1a7d-1a7e 1a8a-1a8f
1a9a-1a9f 1aae-1aaf 1ade-1adf 1aec-1aff 1b4d 1bf4-1bfb 1c38-1c3a 1c4a-1c4c 1c8b-1c8f 1cbb-1cbc 1cc8-1ccf
1cfb-1cff 1f16-1f17 1f1e-1f1f 1f46-1f47 1f4e-1f4f 1f58 1f5a 1f5c 1f5e 1f7e-1f7f 1fb5 1fc5 1fd4-1fd5 1fdc
1ff0-1ff1 1ff5 1fff 200e-200f 2024-2026 2028-202e 2065-2069 2072-2073 208f 209d-209f 20c2-20cf 20f1-20ff
218c-218f 242a-243f 244b-245f 2488-249b 2b74-2b75 2cf4-2cf8 2d26 2d28-2d2c 2d2e-2d2f 2d68-2d6e 2d71-2d7e
2d97-2d9f 2da7 2daf 2db7 2dbf 2dc7 2dcf 2dd7 2ddf 2e5e-2e7f 2e9a 2ef4-2eff 2fd6-2fff 3040 3097-3098
3100-3104 3130 318f 31e6-31ef 321f 33c2 33c7 33d8 a48d-a48f a4c7-a4cf a62c-a63f a6f8-a6ff a7dd-a7f0
a82d-a82f a83a-a83f a878-a87f a8c6-a8cd a8da-a8df a954-a95e a97d-a97f a9ce a9da-a9dd a9ff aa37-aa3f
aa4e-aa4f aa5a-aa5b aac3-aada aaf7-ab00 ab07-ab08 ab0f-ab10 ab17-ab1f ab27 ab2f ab6c-ab6f abee-abef
abfa-abff d7a4-d7af d7c7-d7ca d7fc-f8ff fa6e-fa6f fada-faff fb07-fb12 fb18-fb1c fb37 fb3d fb3f fb42 fb45
fdd0-fdef fe12 fe19-fe1f fe30 fe52-fe53 fe67 fe6c-fe6f fe75 fefd-fefe ff00 ffbf-ffc1 ffc8-ffc9 ffd0-ffd1
ffd8-ffd9 ffdd-ffdf ffe7 ffef-ffff 1000c 10027 1003b 1003e 1004e-1004f 1005e-1007f 100fb-100ff
10103-10106 10134-10136 1018f 1019d-1019f 101a1-101cf 101fe-1027f 1029d-1029f 102d1-102df 102fc-102ff
10324-1032c 1034b-1034f 1037b-1037f 1039e 103c4-103c7 103d6-103ff 1049e-1049f 104aa-104af 104d4-104d7
104fc-104ff 10528-1052f 10564-1056e 1057b 1058b 10593 10596 105a2 105b2 105ba 105bd-105bf 105f4-105ff
10737-1073f 10756-1075f 10768-1077f 10786 107b1 107bb-107ff 10806-10807 10809 10836 10839-1083b
1083d-1083e 10856 1089f-108a6 108b0-108df 108f3 108f6-108fa 1091c-1091e 1093a-1093e 1095a-1097f
109b8-109bb 109d0-109d1 10a04 10a07-10a0b 10a14 10a18 10a36-10a37 10a3b-10a3e 10a49-10a4f 10a59-10a5f
10aa0-10abf 10ae7-10aea 10af7-10aff 10b36-10b38 10b56-10b57 10b73-10b77 10b92-10b98 10b9d-10ba8
10bb0-10bff 10c49-10c7f 10cb3-10cbf 10cf3-10cf9 10d28-10d2f 10d3a-10d3f 10d66-10d68 10d86-10d8d
10d90-10e5f 10e7f 10eaa 10eae-10eaf 10eb2-10ec1 10ec8-10ecf 10ed9-10ef9 10f28-10f2f 10f5a-10f6f
10f8a-10faf 10fcc-10fdf 10ff7-10fff 1104e-11051 11076-1107e 110bd 110c3-110cf 110e9-110ef 110fa-110ff
11135 11148-1114f 11177-1117f 111e0 111f5-111ff 11212 11242-1127f 11287 11289 1128e 1129e 112aa-112af
112eb-112ef 112fa-112ff 11304 1130d-1130e 11311-11312 11329 11331 11334 1133a 11345-11346 11349-1134a
1134e-1134f 11351-11356 11358-1135c 11364-11365 1136d-1136f 11375-1137f 1138a 1138c-1138d 1138f 113b6
113c1 113c3-113c4 113c6 113cb 113d6 113d9-113e0 113e3-113ff 1145c 11462-1147f 114c8-114cf 114da-1157f
115b6-115b7 115de-115ff 11645-1164f 1165a-1165f 1166d-1167f 116ba-116bf 116ca-116cf 116e4-116ff
1171b-1171c 1172c-1172f 11747-117ff 1183c-1189f 118f3-118fe 11907-11908 1190a-1190b 11914 11917 11936
11939-1193a 11947-1194f 1195a-1199f 119a8-119a9 119d8-119d9 119e5-119ff 11a48-11a4f 11aa3-11aaf
11af9-11aff 11b0a-11b5f 11b68-11bbf 11be2-11bef 11bfa-11bff 11c09 11c37 11c46-11c4f 11c6d-11c6f
11c90-11c91 11ca8 11cb7-11cff 11d07 11d0a 11d37-11d39 11d3b 11d3e 11d48-11d4f 11d5a-11d5f 11d66 11d69
11d8f 11d92 11d99-11d9f 11daa-11daf 11ddc-11ddf 11dea-11edf 11ef9-11eff 11f11 11f3b-11f3d 11f5b-11faf
11fb1-11fbf 11ff2-11ffe 1239a-123ff 1246f 12475-1247f 12544-12f8f 12ff3-12fff 13430-1343f 13456-1345f
143fb-143ff 14647-160ff 1613a-167ff 16a39-16a3f 16a5f 16a6a-16a6d 16abf 16aca-16acf 16aee-16aef
16af6-16aff 16b46-16b4f 16b5a 16b62 16b78-16b7c 16b90-16d3f 16d7a-16e3f 16e9b-16e9f 16eb9-16eba
16ed4-16eff 16f4b-16f4e 16f88-16f8e 16fa0-16fdf 16fe5-16fef 16ff7-16fff 18cd6-18cfe 18d1f-18d7f
18df3-1afef 1aff4 1affc 1afff 1b123-1b131 1b133-1b14f 1b153-1b154 1b156-1b163 1b168-1b16f 1b2fc-1bbff
1bc6b-1bc6f 1bc7d-1bc7f 1bc89-1bc8f 1bc9a-1bc9b 1bca4-1cbff 1ccfd-1ccff 1ceb4-1ceb9 1ced1-1cedf
1cef1-1ceff 1cf2e-1cf2f 1cf47-1cf4f 1cfc4-1cfff 1d0f6-1d0ff 1d127-1d128 1d1eb-1d1ff 1d246-1d2bf
1d2d4-1d2df 1d2f4-1d2ff 1d357-1d35f 1d379-1d3ff 1d455 1d49d 1d4a0-1d4a1 1d4a3-1d4a4 1d4a7-1d4a8 1d4ad
1d4ba 1d4bc 1d4c4 1d506 1d50b-1d50c 1d515 1d51d 1d53a 1d53f 1d545 1d547-1d549 1d551 1d6a6-1d6a7
1d7cc-1d7cd 1da8c-1da9a 1daa0 1dab0-1deff 1df1f-1df24 1df2b-1dfff 1e007 1e019-1e01a 1e022 1e025
1e02b-1e02f 1e06e-1e08e 1e090-1e0ff 1e12d-1e12f 1e13e-1e13f 1e14a-1e14d 1e150-1e28f 1e2af-1e2bf
1e2fa-1e2fe 1e300-1e4cf 1e4fa-1e5cf 1e5fb-1e5fe 1e600-1e6bf 1e6df 1e6f6-1e6fd 1e700-1e7df 1e7e7 1e7ec
1e7ef 1e7ff 1e8c5-1e8c6 1e8d7-1e8ff 1e94c-1e94f 1e95a-1e95d 1e960-1ec70 1ecb5-1ed00 1ed3e-1edff 1ee04
1ee20 1ee23 1ee25-1ee26 1ee28 1ee33 1ee38 1ee3a 1ee3c-1ee41 1ee43-1ee46 1ee48 1ee4a 1ee4c 1ee50 1ee53
1ee55-1ee56 1ee58 1ee5a 1ee5c 1ee5e 1ee60 1ee63 1ee65-1ee66 1ee6b 1ee73 1ee78 1ee7d 1ee7f 1ee8a
1ee9c-1eea0 1eea4 1eeaa 1eebc-1eeef 1eef2-1efff 1f02c-1f02f 1f094-1f09f 1f0af-1f0b0 1f0c0 1f0d0
1f0f6-1f100 1f1ae-1f1e5 1f203-1f20f 1f23c-1f23f 1f249-1f24f 1f252-1f25f 1f266-1f2ff 1f6d9-1f6db
1f6ed-1f6ef 1f6fd-1f6ff 1f7da-1f7df 1f7ec-1f7ef 1f7f1-1f7ff 1f80c-1f80f 1f848-1f84f 1f85a-1f85f
1f888-1f88f 1f8ae-1f8af 1f8bc-1f8bf 1f8c2-1f8cf 1f8d9-1f8ff 1fa58-1fa5f 1fa6e-1fa6f 1fa7d-1fa7f
1fa8b-1fa8d 1fac7 1fac9-1facc 1fadd-1fade 1faeb-1faee 1faf9-1faff 1fb93 1fbfb-1ffff 2a6e0-2a6ff
2b81e-2b81f 2ceae-2ceaf 2ebe1-2ebef 2ee5e-2f7ff 2fa1e-2ffff 3134b-3134f 3347a-e00ff e01f0-10ffff"

end ResumableUpload.Domain.Mapping

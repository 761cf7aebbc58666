import ChatSteward.Text.CodePoints
import ChatSteward.Text.ImageRun

/-!
# Tables of domain names

What the characters beyond ASCII stand for in a domain name, where that is not their lower-case
form, after the mapping for internationalized domain names of version 17.

## Main definitions

* `nameImageRuns` — characters that stand for others
* `ignoredRanges` — characters that stand for nothing
* `keptRanges` — characters that stand for themselves against the general rule
* `refusedRanges` — characters with a glyph that no domain name may hold
-/

set_option maxRecDepth 20000

namespace ChatSteward.Net

open Text (CodePointRanges ImageRun)

/-- Characters that stand for others, in normal form. -/
def nameImageRuns : List ImageRun := [
    ⟨0xAA, 0xAA, "a"⟩, ⟨0xB2, 0xB3, "2 3"⟩, ⟨0xB5, 0xB5, "μ"⟩, ⟨0xB9, 0xBA, "1 o"⟩,
    ⟨0xBC, 0xBE, "1⁄4 1⁄2 3⁄4"⟩, ⟨0x132, 0x133, "ij ij"⟩, ⟨0x13F, 0x140, "l· l·"⟩,
    ⟨0x149, 0x149, "ʼn"⟩, ⟨0x17F, 0x17F, "s"⟩, ⟨0x1C4, 0x1CC, "dž dž dž lj lj lj nj nj nj"⟩,
    ⟨0x1F1, 0x1F3, "dz dz dz"⟩, ⟨0x2B0, 0x2B8, "h ɦ j r ɹ ɻ ʁ w y"⟩,
    ⟨0x2E0, 0x2E4, "ɣ l s x ʕ"⟩, ⟨0x345, 0x345, "ι"⟩, ⟨0x3D0, 0x3D6, "β θ υ ύ ϋ φ π"⟩,
    ⟨0x3F0, 0x3F2, "κ ρ σ"⟩, ⟨0x3F5, 0x3F5, "ε"⟩, ⟨0x3F9, 0x3F9, "σ"⟩, ⟨0x587, 0x587, "եւ"⟩,
    ⟨0x675, 0x678, "\u0627\u0674 \u0648\u0674 \u06c7\u0674 \u064a\u0674"⟩,
    ⟨0xE33, 0xE33, "\u0e4dา"⟩, ⟨0xEB3, 0xEB3, "\u0ecdາ"⟩, ⟨0xEDC, 0xEDD, "ຫນ ຫມ"⟩,
    ⟨0xF0C, 0xF0C, "་"⟩, ⟨0xF77, 0xF77, "\u0fb2\u0f71\u0f80"⟩,
    ⟨0xF79, 0xF79, "\u0fb3\u0f71\u0f80"⟩, ⟨0x10FC, 0x10FC, "ნ"⟩,
    ⟨0x13F8, 0x13FD, "Ᏸ Ᏹ Ᏺ Ᏻ Ᏼ Ᏽ"⟩, ⟨0x1C80, 0x1C88, "в д о с т т ъ ѣ ꙋ"⟩,
    ⟨0x1D2C, 0x1D2E, "a æ b"⟩, ⟨0x1D30, 0x1D3A, "d e ǝ g h i j k l m n"⟩,
    ⟨0x1D3C, 0x1D4D, "o ȣ p r t u w a ɐ ɑ ᴂ b d e ə ɛ ɜ g"⟩,
    ⟨0x1D4F, 0x1D6A, "k m ŋ o ɔ ᴖ ᴗ p t u ᴝ ɯ v ᴥ β γ δ φ χ i r u v β γ ρ φ χ"⟩,
    ⟨0x1D78, 0x1D78, "н"⟩,
    ⟨0x1D9B, 0x1DBB, "ɒ c ɕ ð ɜ f ɟ ɡ ɥ ɨ ɩ ɪ ᵻ ʝ ɭ ᶅ ʟ ɱ ɰ ɲ ɳ ɴ ɵ ɸ ʂ ʃ ƫ ʉ ʊ ᴜ ʋ ʌ z"⟩,
    ⟨0x1DBC, 0x1DBF, "ʐ ʑ ʒ θ"⟩, ⟨0x1E9A, 0x1E9B, "aʾ ṡ"⟩,
    ⟨0x1F80, 0x1F95, "ἀι ἁι ἂι ἃι ἄι ἅι ἆι ἇι ἀι ἁι ἂι ἃι ἄι ἅι ἆι ἇι ἠι ἡι ἢι ἣι ἤι ἥι"⟩,
    ⟨0x1F96, 0x1FAB, "ἦι ἧι ἠι ἡι ἢι ἣι ἤι ἥι ἦι ἧι ὠι ὡι ὢι ὣι ὤι ὥι ὦι ὧι ὠι ὡι ὢι ὣι"⟩,
    ⟨0x1FAC, 0x1FAF, "ὤι ὥι ὦι ὧι"⟩, ⟨0x1FB2, 0x1FB4, "ὰι αι άι"⟩, ⟨0x1FB7, 0x1FB7, "ᾶι"⟩,
    ⟨0x1FBC, 0x1FBC, "αι"⟩, ⟨0x1FC2, 0x1FC4, "ὴι ηι ήι"⟩, ⟨0x1FC7, 0x1FC7, "ῆι"⟩,
    ⟨0x1FCC, 0x1FCC, "ηι"⟩, ⟨0x1FF2, 0x1FF4, "ὼι ωι ώι"⟩, ⟨0x1FF7, 0x1FF7, "ῶι"⟩,
    ⟨0x1FFC, 0x1FFC, "ωι"⟩, ⟨0x2011, 0x2011, "‐"⟩, ⟨0x2033, 0x2034, "′′ ′′′"⟩,
    ⟨0x2036, 0x2037, "‵‵ ‵‵‵"⟩, ⟨0x203C, 0x203C, "!!"⟩, ⟨0x2047, 0x2049, "?? ?! !?"⟩,
    ⟨0x2057, 0x2057, "′′′′"⟩, ⟨0x2070, 0x2071, "0 i"⟩,
    ⟨0x2074, 0x208E, "4 5 6 7 8 9 + − = ( ) n 0 1 2 3 4 5 6 7 8 9 + − = ( )"⟩,
    ⟨0x2090, 0x209C, "a e o x ə h k l m n p s t"⟩, ⟨0x20A8, 0x20A8, "rs"⟩,
    ⟨0x2100, 0x2103, "a/c a/s c °c"⟩, ⟨0x2105, 0x2107, "c/o c/u ɛ"⟩,
    ⟨0x2109, 0x2113, "°f g h h h h ħ i i l l"⟩, ⟨0x2115, 0x2116, "n no"⟩,
    ⟨0x2119, 0x211D, "p q r r r"⟩, ⟨0x2120, 0x2122, "sm tel tm"⟩, ⟨0x2124, 0x2124, "z"⟩,
    ⟨0x2128, 0x2128, "z"⟩, ⟨0x212C, 0x212D, "b c"⟩, ⟨0x212F, 0x2131, "e e f"⟩,
    ⟨0x2133, 0x2139, "m o \u05d0 \u05d1 \u05d2 \u05d3 i"⟩, ⟨0x213B, 0x2140, "fax π γ γ π ∑"⟩,
    ⟨0x2145, 0x2149, "d d e i j"⟩,
    ⟨0x2150, 0x2160, "1⁄7 1⁄9 1⁄10 1⁄3 2⁄3 1⁄5 2⁄5 3⁄5 4⁄5 1⁄6 5⁄6 1⁄8 3⁄8 5⁄8 7⁄8 1⁄ i"⟩,
    ⟨0x2161, 0x2176, "ii iii iv v vi vii viii ix x xi xii l c d m i ii iii iv v vi vii"⟩,
    ⟨0x2177, 0x217F, "viii ix x xi xii l c d m"⟩, ⟨0x2189, 0x2189, "0⁄3"⟩,
    ⟨0x222C, 0x222D, "∫∫ ∫∫∫"⟩, ⟨0x222F, 0x2230, "∮∮ ∮∮∮"⟩,
    ⟨0x2460, 0x2477, "1 2 3 4 5 6 7 8 9 10 11 12 13 14 15 16 17 18 19 20 (1) (2) (3) (4)"⟩,
    ⟨0x2478, 0x2485, "(5) (6) (7) (8) (9) (10) (11) (12) (13) (14) (15) (16) (17) (18)"⟩,
    ⟨0x2486, 0x2487, "(19) (20)"⟩,
    ⟨0x249C, 0x24AB, "(a) (b) (c) (d) (e) (f) (g) (h) (i) (j) (k) (l) (m) (n) (o) (p)"⟩,
    ⟨0x24AC, 0x24C2, "(q) (r) (s) (t) (u) (v) (w) (x) (y) (z) a b c d e f g h i j k l m"⟩,
    ⟨0x24C3, 0x24E3, "n o p q r s t u v w x y z a b c d e f g h i j k l m n o p q r s t"⟩,
    ⟨0x24E4, 0x24EA, "u v w x y z 0"⟩, ⟨0x2A0C, 0x2A0C, "∫∫∫∫"⟩, ⟨0x2A74, 0x2A76, "::= == ==="⟩,
    ⟨0x2C7C, 0x2C7D, "j v"⟩, ⟨0x2D6F, 0x2D6F, "ⵡ"⟩, ⟨0x2E9F, 0x2E9F, "母"⟩,
    ⟨0x2EF3, 0x2EF3, "龟"⟩,
    ⟨0x2F00, 0x2F15, "一 丨 丶 丿 乙 亅 二 亠 人 儿 入 八 冂 冖 冫 几 凵 刀 力 勹 匕 匚"⟩,
    ⟨0x2F16, 0x2F2B, "匸 十 卜 卩 厂 厶 又 口 囗 土 士 夂 夊 夕 大 女 子 宀 寸 小 尢 尸"⟩,
    ⟨0x2F2C, 0x2F41, "屮 山 巛 工 己 巾 干 幺 广 廴 廾 弋 弓 彐 彡 彳 心 戈 戶 手 支 攴"⟩,
    ⟨0x2F42, 0x2F57, "文 斗 斤 方 无 日 曰 月 木 欠 止 歹 殳 毋 比 毛 氏 气 水 火 爪 父"⟩,
    ⟨0x2F58, 0x2F6D, "爻 爿 片 牙 牛 犬 玄 玉 瓜 瓦 甘 生 用 田 疋 疒 癶 白 皮 皿 目 矛"⟩,
    ⟨0x2F6E, 0x2F83, "矢 石 示 禸 禾 穴 立 竹 米 糸 缶 网 羊 羽 老 而 耒 耳 聿 肉 臣 自"⟩,
    ⟨0x2F84, 0x2F99, "至 臼 舌 舛 舟 艮 色 艸 虍 虫 血 行 衣 襾 見 角 言 谷 豆 豕 豸 貝"⟩,
    ⟨0x2F9A, 0x2FAF, "赤 走 足 身 車 辛 辰 辵 邑 酉 釆 里 金 長 門 阜 隶 隹 雨 靑 非 面"⟩,
    ⟨0x2FB0, 0x2FC5, "革 韋 韭 音 頁 風 飛 食 首 香 馬 骨 高 髟 鬥 鬯 鬲 鬼 魚 鳥 鹵 鹿"⟩,
    ⟨0x2FC6, 0x2FD5, "麥 麻 黃 黍 黑 黹 黽 鼎 鼓 鼠 鼻 齊 齒 龍 龜 龠"⟩, ⟨0x3002, 0x3002, "."⟩,
    ⟨0x3036, 0x3036, "〒"⟩, ⟨0x3038, 0x303A, "十 卄 卅"⟩, ⟨0x309F, 0x309F, "より"⟩,
    ⟨0x30FF, 0x30FF, "コト"⟩,
    ⟨0x3131, 0x3139, "\u1100 \u1101 \u11aa \u1102 \u11ac \u11ad \u1103 \u1104 \u1105"⟩,
    ⟨0x313A, 0x3142, "\u11b0 \u11b1 \u11b2 \u11b3 \u11b4 \u11b5 \u111a \u1106 \u1107"⟩,
    ⟨0x3143, 0x314B, "\u1108 \u1121 \u1109 \u110a \u110b \u110c \u110d \u110e \u110f"⟩,
    ⟨0x314C, 0x3154, "\u1110 \u1111 \u1112 \u1161 \u1162 \u1163 \u1164 \u1165 \u1166"⟩,
    ⟨0x3155, 0x315D, "\u1167 \u1168 \u1169 \u116a \u116b \u116c \u116d \u116e \u116f"⟩,
    ⟨0x315E, 0x3163, "\u1170 \u1171 \u1172 \u1173 \u1174 \u1175"⟩,
    ⟨0x3165, 0x316D, "\u1114 \u1115 \u11c7 \u11c8 \u11cc \u11ce \u11d3 \u11d7 \u11d9"⟩,
    ⟨0x316E, 0x3176, "\u111c \u11dd \u11df \u111d \u111e \u1120 \u1122 \u1123 \u1127"⟩,
    ⟨0x3177, 0x317F, "\u1129 \u112b \u112c \u112d \u112e \u112f \u1132 \u1136 \u1140"⟩,
    ⟨0x3180, 0x3188, "\u1147 \u114c \u11f1 \u11f2 \u1157 \u1158 \u1159 \u1184 \u1185"⟩,
    ⟨0x3189, 0x318E, "\u1188 \u1191 \u1192 \u1194 \u119e \u11a1"⟩,
    ⟨0x3192, 0x319F, "一 二 三 四 上 中 下 甲 乙 丙 丁 天 地 人"⟩,
    ⟨0x3200, 0x3206, "(\u1100) (\u1102) (\u1103) (\u1105) (\u1106) (\u1107) (\u1109)"⟩,
    ⟨0x3207, 0x320D, "(\u110b) (\u110c) (\u110e) (\u110f) (\u1110) (\u1111) (\u1112)"⟩,
    ⟨0x320E, 0x321A, "(가) (나) (다) (라) (마) (바) (사) (아) (자) (차) (카) (타) (파)"⟩,
    ⟨0x321B, 0x321E, "(하) (주) (오전) (오후)"⟩,
    ⟨0x3220, 0x322C, "(一) (二) (三) (四) (五) (六) (七) (八) (九) (十) (月) (火) (水)"⟩,
    ⟨0x322D, 0x3239, "(木) (金) (土) (日) (株) (有) (社) (名) (特) (財) (祝) (労) (代)"⟩,
    ⟨0x323A, 0x3247, "(呼) (学) (監) (企) (資) (協) (祭) (休) (自) (至) 問 幼 文 箏"⟩,
    ⟨0x3250, 0x3261, "pte 21 22 23 24 25 26 27 28 29 30 31 32 33 34 35 \u1100 \u1102"⟩,
    ⟨0x3262, 0x326A, "\u1103 \u1105 \u1106 \u1107 \u1109 \u110b \u110c \u110e \u110f"⟩,
    ⟨0x326B, 0x327B, "\u1110 \u1111 \u1112 가 나 다 라 마 바 사 아 자 차 카 타 파 하"⟩,
    ⟨0x327C, 0x327E, "참고 주의 우"⟩,
    ⟨0x3280, 0x3295, "一 二 三 四 五 六 七 八 九 十 月 火 水 木 金 土 日 株 有 社 名 特"⟩,
    ⟨0x3296, 0x32AB, "財 祝 労 秘 男 女 適 優 印 注 項 休 写 正 上 中 下 左 右 医 宗 学"⟩,
    ⟨0x32AC, 0x32C0, "監 企 資 協 夜 36 37 38 39 40 41 42 43 44 45 46 47 48 49 50 1月"⟩,
    ⟨0x32C1, 0x32D1, "2月 3月 4月 5月 6月 7月 8月 9月 10月 11月 12月 hg erg ev ltd ア イ"⟩,
    ⟨0x32D2, 0x32E7, "ウ エ オ カ キ ク ケ コ サ シ ス セ ソ タ チ ツ テ ト ナ ニ ヌ ネ"⟩,
    ⟨0x32E8, 0x32FD, "ノ ハ ヒ フ ヘ ホ マ ミ ム メ モ ヤ ユ ヨ ラ リ ル レ ロ ワ ヰ ヱ"⟩,
    ⟨0x32FE, 0x3306, "ヲ 令和 アパート アルファ アンペア アール イニング インチ ウォン"⟩,
    ⟨0x3307, 0x330E, "エスクード エーカー オンス オーム カイリ カラット カロリー ガロン"⟩,
    ⟨0x330F, 0x3316, "ガンマ ギガ ギニー キュリー ギルダー キロ キログラム キロメートル"⟩,
    ⟨0x3317, 0x331D, "キロワット グラム グラムトン クルゼイロ クローネ ケース コルナ"⟩,
    ⟨0x331E, 0x3326, "コーポ サイクル サンチーム シリング センチ セント ダース デシ ドル"⟩,
    ⟨0x3327, 0x332E, "トン ナノ ノット ハイツ パーセント パーツ バーレル ピアストル"⟩,
    ⟨0x332F, 0x3336, "ピクル ピコ ビル ファラッド フィート ブッシェル フラン ヘクタール"⟩,
    ⟨0x3337, 0x333F, "ペソ ペニヒ ヘルツ ペンス ページ ベータ ポイント ボルト ホン"⟩,
    ⟨0x3340, 0x3347, "ポンド ホール ホーン マイクロ マイル マッハ マルク マンション"⟩,
    ⟨0x3348, 0x334F, "ミクロン ミリ ミリバール メガ メガトン メートル ヤード ヤール"⟩,
    ⟨0x3350, 0x3358, "ユアン リットル リラ ルピー ルーブル レム レントゲン ワット 0点"⟩,
    ⟨0x3359, 0x3367, "1点 2点 3点 4点 5点 6点 7点 8点 9点 10点 11点 12点 13点 14点 15点"⟩,
    ⟨0x3368, 0x3376, "16点 17点 18点 19点 20点 21点 22点 23点 24点 hpa da au bar ov pc"⟩,
    ⟨0x3377, 0x3387, "dm dm2 dm3 iu 平成 昭和 大正 明治 株式会社 pa na μa ma ka kb mb gb"⟩,
    ⟨0x3388, 0x339B, "cal kcal pf nf μf μg mg kg hz khz mhz ghz thz μl ml dl kl fm nm μm"⟩,
    ⟨0x339C, 0x33AD, "mm cm km mm2 cm2 m2 km2 mm3 cm3 m3 km3 m∕s m∕s2 pa kpa mpa gpa rad"⟩,
    ⟨0x33AE, 0x33C1, "rad∕s rad∕s2 ps ns μs ms pv nv μv mv kv mv pw nw μw mw kw mw kω mω"⟩,
    ⟨0x33C3, 0x33C6, "bq cc cd c∕kg"⟩,
    ⟨0x33C8, 0x33D7, "db gy ha hp in kk km kt lm ln log lx mb mil mol ph"⟩,
    ⟨0x33D9, 0x33E9, "ppm pr sr sv wb v∕m a∕m 1日 2日 3日 4日 5日 6日 7日 8日 9日 10日"⟩,
    ⟨0x33EA, 0x33F6, "11日 12日 13日 14日 15日 16日 17日 18日 19日 20日 21日 22日 23日"⟩,
    ⟨0x33F7, 0x33FF, "24日 25日 26日 27日 28日 29日 30日 31日 gal"⟩, ⟨0xA69C, 0xA69D, "ъ ь"⟩,
    ⟨0xA770, 0xA770, "ꝯ"⟩, ⟨0xA7F1, 0xA7F4, "s c f q"⟩, ⟨0xA7F8, 0xA7F9, "ħ œ"⟩,
    ⟨0xAB5C, 0xAB5F, "ꜧ ꬷ ɫ ꭒ"⟩, ⟨0xAB69, 0xAB69, "ʍ"⟩,
    ⟨0xAB70, 0xAB90, "Ꭰ Ꭱ Ꭲ Ꭳ Ꭴ Ꭵ Ꭶ Ꭷ Ꭸ Ꭹ Ꭺ Ꭻ Ꭼ Ꭽ Ꭾ Ꭿ Ꮀ Ꮁ Ꮂ Ꮃ Ꮄ Ꮅ Ꮆ Ꮇ Ꮈ Ꮉ Ꮊ Ꮋ Ꮌ Ꮍ Ꮎ Ꮏ Ꮐ"⟩,
    ⟨0xAB91, 0xABB1, "Ꮑ Ꮒ Ꮓ Ꮔ Ꮕ Ꮖ Ꮗ Ꮘ Ꮙ Ꮚ Ꮛ Ꮜ Ꮝ Ꮞ Ꮟ Ꮠ Ꮡ Ꮢ Ꮣ Ꮤ Ꮥ Ꮦ Ꮧ Ꮨ Ꮩ Ꮪ Ꮫ Ꮬ Ꮭ Ꮮ Ꮯ Ꮰ Ꮱ"⟩,
    ⟨0xABB2, 0xABBF, "Ꮲ Ꮳ Ꮴ Ꮵ Ꮶ Ꮷ Ꮸ Ꮹ Ꮺ Ꮻ Ꮼ Ꮽ Ꮾ Ꮿ"⟩, ⟨0xFB00, 0xFB06, "ff fi fl ffi ffl st st"⟩,
    ⟨0xFB13, 0xFB17, "մն մե մի վն մխ"⟩,
    ⟨0xFB20, 0xFB29, "\u05e2 \u05d0 \u05d3 \u05d4 \u05db \u05dc \u05dd \u05e8 \u05ea +"⟩,
    ⟨0xFB4F, 0xFB56, "\u05d0\u05dc \u0671 \u0671 \u067b \u067b \u067b \u067b \u067e"⟩,
    ⟨0xFB57, 0xFB5F, "\u067e \u067e \u067e \u0680 \u0680 \u0680 \u0680 \u067a \u067a"⟩,
    ⟨0xFB60, 0xFB68, "\u067a \u067a \u067f \u067f \u067f \u067f \u0679 \u0679 \u0679"⟩,
    ⟨0xFB69, 0xFB71, "\u0679 \u06a4 \u06a4 \u06a4 \u06a4 \u06a6 \u06a6 \u06a6 \u06a6"⟩,
    ⟨0xFB72, 0xFB7A, "\u0684 \u0684 \u0684 \u0684 \u0683 \u0683 \u0683 \u0683 \u0686"⟩,
    ⟨0xFB7B, 0xFB83, "\u0686 \u0686 \u0686 \u0687 \u0687 \u0687 \u0687 \u068d \u068d"⟩,
    ⟨0xFB84, 0xFB8C, "\u068c \u068c \u068e \u068e \u0688 \u0688 \u0698 \u0698 \u0691"⟩,
    ⟨0xFB8D, 0xFB95, "\u0691 \u06a9 \u06a9 \u06a9 \u06a9 \u06af \u06af \u06af \u06af"⟩,
    ⟨0xFB96, 0xFB9E, "\u06b3 \u06b3 \u06b3 \u06b3 \u06b1 \u06b1 \u06b1 \u06b1 \u06ba"⟩,
    ⟨0xFB9F, 0xFBA7, "\u06ba \u06bb \u06bb \u06bb \u06bb \u06c0 \u06c0 \u06c1 \u06c1"⟩,
    ⟨0xFBA8, 0xFBB0, "\u06c1 \u06c1 \u06be \u06be \u06be \u06be \u06d2 \u06d2 \u06d3"⟩,
    ⟨0xFBB1, 0xFBB1, "\u06d3"⟩,
    ⟨0xFBD3, 0xFBDB, "\u06ad \u06ad \u06ad \u06ad \u06c7 \u06c7 \u06c6 \u06c6 \u06c8"⟩,
    ⟨0xFBDC, 0xFBE3, "\u06c8 \u06c7\u0674 \u06cb \u06cb \u06c5 \u06c5 \u06c9 \u06c9"⟩,
    ⟨0xFBE4, 0xFBEA, "\u06d0 \u06d0 \u06d0 \u06d0 \u0649 \u0649 \u0626\u0627"⟩,
    ⟨0xFBEB, 0xFBEF, "\u0626\u0627 \u0626\u06d5 \u0626\u06d5 \u0626\u0648 \u0626\u0648"⟩,
    ⟨0xFBF0, 0xFBF4, "\u0626\u06c7 \u0626\u06c7 \u0626\u06c6 \u0626\u06c6 \u0626\u06c8"⟩,
    ⟨0xFBF5, 0xFBF9, "\u0626\u06c8 \u0626\u06d0 \u0626\u06d0 \u0626\u06d0 \u0626\u0649"⟩,
    ⟨0xFBFA, 0xFC00, "\u0626\u0649 \u0626\u0649 \u06cc \u06cc \u06cc \u06cc \u0626\u062c"⟩,
    ⟨0xFC01, 0xFC05, "\u0626\u062d \u0626\u0645 \u0626\u0649 \u0626\u064a \u0628\u062c"⟩,
    ⟨0xFC06, 0xFC0A, "\u0628\u062d \u0628\u062e \u0628\u0645 \u0628\u0649 \u0628\u064a"⟩,
    ⟨0xFC0B, 0xFC0F, "\u062a\u062c \u062a\u062d \u062a\u062e \u062a\u0645 \u062a\u0649"⟩,
    ⟨0xFC10, 0xFC14, "\u062a\u064a \u062b\u062c \u062b\u0645 \u062b\u0649 \u062b\u064a"⟩,
    ⟨0xFC15, 0xFC19, "\u062c\u062d \u062c\u0645 \u062d\u062c \u062d\u0645 \u062e\u062c"⟩,
    ⟨0xFC1A, 0xFC1E, "\u062e\u062d \u062e\u0645 \u0633\u062c \u0633\u062d \u0633\u062e"⟩,
    ⟨0xFC1F, 0xFC23, "\u0633\u0645 \u0635\u062d \u0635\u0645 \u0636\u062c \u0636\u062d"⟩,
    ⟨0xFC24, 0xFC28, "\u0636\u062e \u0636\u0645 \u0637\u062d \u0637\u0645 \u0638\u0645"⟩,
    ⟨0xFC29, 0xFC2D, "\u0639\u062c \u0639\u0645 \u063a\u062c \u063a\u0645 \u0641\u062c"⟩,
    ⟨0xFC2E, 0xFC32, "\u0641\u062d \u0641\u062e \u0641\u0645 \u0641\u0649 \u0641\u064a"⟩,
    ⟨0xFC33, 0xFC37, "\u0642\u062d \u0642\u0645 \u0642\u0649 \u0642\u064a \u0643\u0627"⟩,
    ⟨0xFC38, 0xFC3C, "\u0643\u062c \u0643\u062d \u0643\u062e \u0643\u0644 \u0643\u0645"⟩,
    ⟨0xFC3D, 0xFC41, "\u0643\u0649 \u0643\u064a \u0644\u062c \u0644\u062d \u0644\u062e"⟩,
    ⟨0xFC42, 0xFC46, "\u0644\u0645 \u0644\u0649 \u0644\u064a \u0645\u062c \u0645\u062d"⟩,
    ⟨0xFC47, 0xFC4B, "\u0645\u062e \u0645\u0645 \u0645\u0649 \u0645\u064a \u0646\u062c"⟩,
    ⟨0xFC4C, 0xFC50, "\u0646\u062d \u0646\u062e \u0646\u0645 \u0646\u0649 \u0646\u064a"⟩,
    ⟨0xFC51, 0xFC55, "\u0647\u062c \u0647\u0645 \u0647\u0649 \u0647\u064a \u064a\u062c"⟩,
    ⟨0xFC56, 0xFC5A, "\u064a\u062d \u064a\u062e \u064a\u0645 \u064a\u0649 \u064a\u064a"⟩,
    ⟨0xFC5B, 0xFC5D, "\u0630\u0670 \u0631\u0670 \u0649\u0670"⟩,
    ⟨0xFC64, 0xFC68, "\u0626\u0631 \u0626\u0632 \u0626\u0645 \u0626\u0646 \u0626\u0649"⟩,
    ⟨0xFC69, 0xFC6D, "\u0626\u064a \u0628\u0631 \u0628\u0632 \u0628\u0645 \u0628\u0646"⟩,
    ⟨0xFC6E, 0xFC72, "\u0628\u0649 \u0628\u064a \u062a\u0631 \u062a\u0632 \u062a\u0645"⟩,
    ⟨0xFC73, 0xFC77, "\u062a\u0646 \u062a\u0649 \u062a\u064a \u062b\u0631 \u062b\u0632"⟩,
    ⟨0xFC78, 0xFC7C, "\u062b\u0645 \u062b\u0646 \u062b\u0649 \u062b\u064a \u0641\u0649"⟩,
    ⟨0xFC7D, 0xFC81, "\u0641\u064a \u0642\u0649 \u0642\u064a \u0643\u0627 \u0643\u0644"⟩,
    ⟨0xFC82, 0xFC86, "\u0643\u0645 \u0643\u0649 \u0643\u064a \u0644\u0645 \u0644\u0649"⟩,
    ⟨0xFC87, 0xFC8B, "\u0644\u064a \u0645\u0627 \u0645\u0645 \u0646\u0631 \u0646\u0632"⟩,
    ⟨0xFC8C, 0xFC90, "\u0646\u0645 \u0646\u0646 \u0646\u0649 \u0646\u064a \u0649\u0670"⟩,
    ⟨0xFC91, 0xFC95, "\u064a\u0631 \u064a\u0632 \u064a\u0645 \u064a\u0646 \u064a\u0649"⟩,
    ⟨0xFC96, 0xFC9A, "\u064a\u064a \u0626\u062c \u0626\u062d \u0626\u062e \u0626\u0645"⟩,
    ⟨0xFC9B, 0xFC9F, "\u0626\u0647 \u0628\u062c \u0628\u062d \u0628\u062e \u0628\u0645"⟩,
    ⟨0xFCA0, 0xFCA4, "\u0628\u0647 \u062a\u062c \u062a\u062d \u062a\u062e \u062a\u0645"⟩,
    ⟨0xFCA5, 0xFCA9, "\u062a\u0647 \u062b\u0645 \u062c\u062d \u062c\u0645 \u062d\u062c"⟩,
    ⟨0xFCAA, 0xFCAE, "\u062d\u0645 \u062e\u062c \u062e\u0645 \u0633\u062c \u0633\u062d"⟩,
    ⟨0xFCAF, 0xFCB3, "\u0633\u062e \u0633\u0645 \u0635\u062d \u0635\u062e \u0635\u0645"⟩,
    ⟨0xFCB4, 0xFCB8, "\u0636\u062c \u0636\u062d \u0636\u062e \u0636\u0645 \u0637\u062d"⟩,
    ⟨0xFCB9, 0xFCBD, "\u0638\u0645 \u0639\u062c \u0639\u0645 \u063a\u062c \u063a\u0645"⟩,
    ⟨0xFCBE, 0xFCC2, "\u0641\u062c \u0641\u062d \u0641\u062e \u0641\u0645 \u0642\u062d"⟩,
    ⟨0xFCC3, 0xFCC7, "\u0642\u0645 \u0643\u062c \u0643\u062d \u0643\u062e \u0643\u0644"⟩,
    ⟨0xFCC8, 0xFCCC, "\u0643\u0645 \u0644\u062c \u0644\u062d \u0644\u062e \u0644\u0645"⟩,
    ⟨0xFCCD, 0xFCD1, "\u0644\u0647 \u0645\u062c \u0645\u062d \u0645\u062e \u0645\u0645"⟩,
    ⟨0xFCD2, 0xFCD6, "\u0646\u062c \u0646\u062d \u0646\u062e \u0646\u0645 \u0646\u0647"⟩,
    ⟨0xFCD7, 0xFCDB, "\u0647\u062c \u0647\u0645 \u0647\u0670 \u064a\u062c \u064a\u062d"⟩,
    ⟨0xFCDC, 0xFCE0, "\u064a\u062e \u064a\u0645 \u064a\u0647 \u0626\u0645 \u0626\u0647"⟩,
    ⟨0xFCE1, 0xFCE5, "\u0628\u0645 \u0628\u0647 \u062a\u0645 \u062a\u0647 \u062b\u0645"⟩,
    ⟨0xFCE6, 0xFCEA, "\u062b\u0647 \u0633\u0645 \u0633\u0647 \u0634\u0645 \u0634\u0647"⟩,
    ⟨0xFCEB, 0xFCEF, "\u0643\u0644 \u0643\u0645 \u0644\u0645 \u0646\u0645 \u0646\u0647"⟩,
    ⟨0xFCF0, 0xFCF3, "\u064a\u0645 \u064a\u0647 \u0640\u064e\u0651 \u0640\u064f\u0651"⟩,
    ⟨0xFCF4, 0xFCF7, "\u0640\u0650\u0651 \u0637\u0649 \u0637\u064a \u0639\u0649"⟩,
    ⟨0xFCF8, 0xFCFC, "\u0639\u064a \u063a\u0649 \u063a\u064a \u0633\u0649 \u0633\u064a"⟩,
    ⟨0xFCFD, 0xFD01, "\u0634\u0649 \u0634\u064a \u062d\u0649 \u062d\u064a \u062c\u0649"⟩,
    ⟨0xFD02, 0xFD06, "\u062c\u064a \u062e\u0649 \u062e\u064a \u0635\u0649 \u0635\u064a"⟩,
    ⟨0xFD07, 0xFD0B, "\u0636\u0649 \u0636\u064a \u0634\u062c \u0634\u062d \u0634\u062e"⟩,
    ⟨0xFD0C, 0xFD10, "\u0634\u0645 \u0634\u0631 \u0633\u0631 \u0635\u0631 \u0636\u0631"⟩,
    ⟨0xFD11, 0xFD15, "\u0637\u0649 \u0637\u064a \u0639\u0649 \u0639\u064a \u063a\u0649"⟩,
    ⟨0xFD16, 0xFD1A, "\u063a\u064a \u0633\u0649 \u0633\u064a \u0634\u0649 \u0634\u064a"⟩,
    ⟨0xFD1B, 0xFD1F, "\u062d\u0649 \u062d\u064a \u062c\u0649 \u062c\u064a \u062e\u0649"⟩,
    ⟨0xFD20, 0xFD24, "\u062e\u064a \u0635\u0649 \u0635\u064a \u0636\u0649 \u0636\u064a"⟩,
    ⟨0xFD25, 0xFD29, "\u0634\u062c \u0634\u062d \u0634\u062e \u0634\u0645 \u0634\u0631"⟩,
    ⟨0xFD2A, 0xFD2E, "\u0633\u0631 \u0635\u0631 \u0636\u0631 \u0634\u062c \u0634\u062d"⟩,
    ⟨0xFD2F, 0xFD33, "\u0634\u062e \u0634\u0645 \u0633\u0647 \u0634\u0647 \u0637\u0645"⟩,
    ⟨0xFD34, 0xFD38, "\u0633\u062c \u0633\u062d \u0633\u062e \u0634\u062c \u0634\u062d"⟩,
    ⟨0xFD39, 0xFD3D, "\u0634\u062e \u0637\u0645 \u0638\u0645 \u0627\u064b \u0627\u064b"⟩,
    ⟨0xFD50, 0xFD52, "\u062a\u062c\u0645 \u062a\u062d\u062c \u062a\u062d\u062c"⟩,
    ⟨0xFD53, 0xFD55, "\u062a\u062d\u0645 \u062a\u062e\u0645 \u062a\u0645\u062c"⟩,
    ⟨0xFD56, 0xFD58, "\u062a\u0645\u062d \u062a\u0645\u062e \u062c\u0645\u062d"⟩,
    ⟨0xFD59, 0xFD5B, "\u062c\u0645\u062d \u062d\u0645\u064a \u062d\u0645\u0649"⟩,
    ⟨0xFD5C, 0xFD5E, "\u0633\u062d\u062c \u0633\u062c\u062d \u0633\u062c\u0649"⟩,
    ⟨0xFD5F, 0xFD61, "\u0633\u0645\u062d \u0633\u0645\u062d \u0633\u0645\u062c"⟩,
    ⟨0xFD62, 0xFD64, "\u0633\u0645\u0645 \u0633\u0645\u0645 \u0635\u062d\u062d"⟩,
    ⟨0xFD65, 0xFD67, "\u0635\u062d\u062d \u0635\u0645\u0645 \u0634\u062d\u0645"⟩,
    ⟨0xFD68, 0xFD6A, "\u0634\u062d\u0645 \u0634\u062c\u064a \u0634\u0645\u062e"⟩,
    ⟨0xFD6B, 0xFD6D, "\u0634\u0645\u062e \u0634\u0645\u0645 \u0634\u0645\u0645"⟩,
    ⟨0xFD6E, 0xFD70, "\u0636\u062d\u0649 \u0636\u062e\u0645 \u0636\u062e\u0645"⟩,
    ⟨0xFD71, 0xFD73, "\u0637\u0645\u062d \u0637\u0645\u062d \u0637\u0645\u0645"⟩,
    ⟨0xFD74, 0xFD76, "\u0637\u0645\u064a \u0639\u062c\u0645 \u0639\u0645\u0645"⟩,
    ⟨0xFD77, 0xFD79, "\u0639\u0645\u0645 \u0639\u0645\u0649 \u063a\u0645\u0645"⟩,
    ⟨0xFD7A, 0xFD7C, "\u063a\u0645\u064a \u063a\u0645\u0649 \u0641\u062e\u0645"⟩,
    ⟨0xFD7D, 0xFD7F, "\u0641\u062e\u0645 \u0642\u0645\u062d \u0642\u0645\u0645"⟩,
    ⟨0xFD80, 0xFD82, "\u0644\u062d\u0645 \u0644\u062d\u064a \u0644\u062d\u0649"⟩,
    ⟨0xFD83, 0xFD85, "\u0644\u062c\u062c \u0644\u062c\u062c \u0644\u062e\u0645"⟩,
    ⟨0xFD86, 0xFD88, "\u0644\u062e\u0645 \u0644\u0645\u062d \u0644\u0645\u062d"⟩,
    ⟨0xFD89, 0xFD8B, "\u0645\u062d\u062c \u0645\u062d\u0645 \u0645\u062d\u064a"⟩,
    ⟨0xFD8C, 0xFD8E, "\u0645\u062c\u062d \u0645\u062c\u0645 \u0645\u062e\u062c"⟩,
    ⟨0xFD8F, 0xFD8F, "\u0645\u062e\u0645"⟩,
    ⟨0xFD92, 0xFD94, "\u0645\u062c\u062e \u0647\u0645\u062c \u0647\u0645\u0645"⟩,
    ⟨0xFD95, 0xFD97, "\u0646\u062d\u0645 \u0646\u062d\u0649 \u0646\u062c\u0645"⟩,
    ⟨0xFD98, 0xFD9A, "\u0646\u062c\u0645 \u0646\u062c\u0649 \u0646\u0645\u064a"⟩,
    ⟨0xFD9B, 0xFD9D, "\u0646\u0645\u0649 \u064a\u0645\u0645 \u064a\u0645\u0645"⟩,
    ⟨0xFD9E, 0xFDA0, "\u0628\u062e\u064a \u062a\u062c\u064a \u062a\u062c\u0649"⟩,
    ⟨0xFDA1, 0xFDA3, "\u062a\u062e\u064a \u062a\u062e\u0649 \u062a\u0645\u064a"⟩,
    ⟨0xFDA4, 0xFDA6, "\u062a\u0645\u0649 \u062c\u0645\u064a \u062c\u062d\u0649"⟩,
    ⟨0xFDA7, 0xFDA9, "\u062c\u0645\u0649 \u0633\u062e\u0649 \u0635\u062d\u064a"⟩,
    ⟨0xFDAA, 0xFDAC, "\u0634\u062d\u064a \u0636\u062d\u064a \u0644\u062c\u064a"⟩,
    ⟨0xFDAD, 0xFDAF, "\u0644\u0645\u064a \u064a\u062d\u064a \u064a\u062c\u064a"⟩,
    ⟨0xFDB0, 0xFDB2, "\u064a\u0645\u064a \u0645\u0645\u064a \u0642\u0645\u064a"⟩,
    ⟨0xFDB3, 0xFDB5, "\u0646\u062d\u064a \u0642\u0645\u062d \u0644\u062d\u0645"⟩,
    ⟨0xFDB6, 0xFDB8, "\u0639\u0645\u064a \u0643\u0645\u064a \u0646\u062c\u062d"⟩,
    ⟨0xFDB9, 0xFDBB, "\u0645\u062e\u064a \u0644\u062c\u0645 \u0643\u0645\u0645"⟩,
    ⟨0xFDBC, 0xFDBE, "\u0644\u062c\u0645 \u0646\u062c\u062d \u062c\u062d\u064a"⟩,
    ⟨0xFDBF, 0xFDC1, "\u062d\u062c\u064a \u0645\u062c\u064a \u0641\u0645\u064a"⟩,
    ⟨0xFDC2, 0xFDC4, "\u0628\u062d\u064a \u0643\u0645\u0645 \u0639\u062c\u0645"⟩,
    ⟨0xFDC5, 0xFDC7, "\u0635\u0645\u0645 \u0633\u062e\u064a \u0646\u062c\u064a"⟩,
    ⟨0xFDF0, 0xFDF2, "\u0635\u0644\u06d2 \u0642\u0644\u06d2 \u0627\u0644\u0644\u0647"⟩,
    ⟨0xFDF3, 0xFDF4, "\u0627\u0643\u0628\u0631 \u0645\u062d\u0645\u062f"⟩,
    ⟨0xFDF5, 0xFDF6, "\u0635\u0644\u0639\u0645 \u0631\u0633\u0648\u0644"⟩,
    ⟨0xFDF7, 0xFDF8, "\u0639\u0644\u064a\u0647 \u0648\u0633\u0644\u0645"⟩,
    ⟨0xFDF9, 0xFDF9, "\u0635\u0644\u0649"⟩, ⟨0xFDFC, 0xFDFC, "\u0631\u06cc\u0627\u0644"⟩,
    ⟨0xFE10, 0xFE11, ", 、"⟩, ⟨0xFE13, 0xFE18, ": ; ! ? 〖 〗"⟩,
    ⟨0xFE31, 0xFE44, "— – _ _ ( ) \x7b \x7d 〔 〕 【 】 《 》 〈 〉 「 」 『 』"⟩,
    ⟨0xFE47, 0xFE48, "[ ]"⟩, ⟨0xFE4D, 0xFE51, "_ _ _ , 、"⟩,
    ⟨0xFE54, 0xFE66, "; : ? ! — ( ) \x7b \x7d 〔 〕 # & * + - < > ="⟩,
    ⟨0xFE68, 0xFE6B, "\\ $ % @"⟩, ⟨0xFE71, 0xFE71, "\u0640\u064b"⟩,
    ⟨0xFE77, 0xFE77, "\u0640\u064e"⟩, ⟨0xFE79, 0xFE79, "\u0640\u064f"⟩,
    ⟨0xFE7B, 0xFE7B, "\u0640\u0650"⟩, ⟨0xFE7D, 0xFE7D, "\u0640\u0651"⟩,
    ⟨0xFE7F, 0xFE86, "\u0640\u0652 \u0621 \u0622 \u0622 \u0623 \u0623 \u0624 \u0624"⟩,
    ⟨0xFE87, 0xFE8F, "\u0625 \u0625 \u0626 \u0626 \u0626 \u0626 \u0627 \u0627 \u0628"⟩,
    ⟨0xFE90, 0xFE98, "\u0628 \u0628 \u0628 \u0629 \u0629 \u062a \u062a \u062a \u062a"⟩,
    ⟨0xFE99, 0xFEA1, "\u062b \u062b \u062b \u062b \u062c \u062c \u062c \u062c \u062d"⟩,
    ⟨0xFEA2, 0xFEAA, "\u062d \u062d \u062d \u062e \u062e \u062e \u062e \u062f \u062f"⟩,
    ⟨0xFEAB, 0xFEB3, "\u0630 \u0630 \u0631 \u0631 \u0632 \u0632 \u0633 \u0633 \u0633"⟩,
    ⟨0xFEB4, 0xFEBC, "\u0633 \u0634 \u0634 \u0634 \u0634 \u0635 \u0635 \u0635 \u0635"⟩,
    ⟨0xFEBD, 0xFEC5, "\u0636 \u0636 \u0636 \u0636 \u0637 \u0637 \u0637 \u0637 \u0638"⟩,
    ⟨0xFEC6, 0xFECE, "\u0638 \u0638 \u0638 \u0639 \u0639 \u0639 \u0639 \u063a \u063a"⟩,
    ⟨0xFECF, 0xFED7, "\u063a \u063a \u0641 \u0641 \u0641 \u0641 \u0642 \u0642 \u0642"⟩,
    ⟨0xFED8, 0xFEE0, "\u0642 \u0643 \u0643 \u0643 \u0643 \u0644 \u0644 \u0644 \u0644"⟩,
    ⟨0xFEE1, 0xFEE9, "\u0645 \u0645 \u0645 \u0645 \u0646 \u0646 \u0646 \u0646 \u0647"⟩,
    ⟨0xFEEA, 0xFEF2, "\u0647 \u0647 \u0647 \u0648 \u0648 \u0649 \u0649 \u064a \u064a"⟩,
    ⟨0xFEF3, 0xFEF8, "\u064a \u064a \u0644\u0622 \u0644\u0622 \u0644\u0623 \u0644\u0623"⟩,
    ⟨0xFEF9, 0xFEFC, "\u0644\u0625 \u0644\u0625 \u0644\u0627 \u0644\u0627"⟩,
    ⟨0xFF01, 0xFF21, "! \" # $ % & ' ( ) * + , - . / 0 1 2 3 4 5 6 7 8 9 : ; < = > ? @ a"⟩,
    ⟨0xFF22, 0xFF42, "b c d e f g h i j k l m n o p q r s t u v w x y z [ \\ ] ^ _ ` a b"⟩,
    ⟨0xFF43, 0xFF60, "c d e f g h i j k l m n o p q r s t u v w x y z \x7b | \x7d ~ ⦅ ⦆"⟩,
    ⟨0xFF61, 0xFF76, ". 「 」 、 ・ ヲ ァ ィ ゥ ェ ォ ャ ュ ョ ッ ー ア イ ウ エ オ カ"⟩,
    ⟨0xFF77, 0xFF8C, "キ ク ケ コ サ シ ス セ ソ タ チ ツ テ ト ナ ニ ヌ ネ ノ ハ ヒ フ"⟩,
    ⟨0xFF8D, 0xFF9F, "ヘ ホ マ ミ ム メ モ ヤ ユ ヨ ラ リ ル レ ロ ワ ン \u3099 \u309a"⟩,
    ⟨0xFFA1, 0xFFA9, "\u1100 \u1101 \u11aa \u1102 \u11ac \u11ad \u1103 \u1104 \u1105"⟩,
    ⟨0xFFAA, 0xFFB2, "\u11b0 \u11b1 \u11b2 \u11b3 \u11b4 \u11b5 \u111a \u1106 \u1107"⟩,
    ⟨0xFFB3, 0xFFBB, "\u1108 \u1121 \u1109 \u110a \u110b \u110c \u110d \u110e \u110f"⟩,
    ⟨0xFFBC, 0xFFBE, "\u1110 \u1111 \u1112"⟩,
    ⟨0xFFC2, 0xFFC7, "\u1161 \u1162 \u1163 \u1164 \u1165 \u1166"⟩,
    ⟨0xFFCA, 0xFFCF, "\u1167 \u1168 \u1169 \u116a \u116b \u116c"⟩,
    ⟨0xFFD2, 0xFFD7, "\u116d \u116e \u116f \u1170 \u1171 \u1172"⟩,
    ⟨0xFFDA, 0xFFDC, "\u1173 \u1174 \u1175"⟩, ⟨0xFFE0, 0xFFE2, "¢ £ ¬"⟩,
    ⟨0xFFE4, 0xFFE6, "¦ ¥ ₩"⟩, ⟨0xFFE8, 0xFFEE, "│ ← ↑ → ↓ ■ ○"⟩,
    ⟨0x10781, 0x10785, "ː ˑ æ ʙ ɓ"⟩,
    ⟨0x10787, 0x107A6, "ʣ ꭦ ʥ ʤ ɖ ɗ ᶑ ɘ ɞ ʩ ɤ ɢ ɠ ʛ ħ ʜ ɧ ʄ ʪ ʫ ɬ 𝼄 ꞎ ɮ 𝼅 ʎ 𝼆 ø ɶ ɷ q ɺ"⟩,
    ⟨0x107A7, 0x107B0, "𝼈 ɽ ɾ ʀ ʨ ʦ ꭧ ʧ ʈ ⱱ"⟩, ⟨0x107B2, 0x107BA, "ʏ ʡ ʢ ʘ ǀ ǁ ǂ 𝼊 𝼞"⟩,
    ⟨0x1CCD6, 0x1CCF6, "a b c d e f g h i j k l m n o p q r s t u v w x y z 0 1 2 3 4 5 6"⟩,
    ⟨0x1CCF7, 0x1CCF9, "7 8 9"⟩,
    ⟨0x1D400, 0x1D420, "a b c d e f g h i j k l m n o p q r s t u v w x y z a b c d e f g"⟩,
    ⟨0x1D421, 0x1D441, "h i j k l m n o p q r s t u v w x y z a b c d e f g h i j k l m n"⟩,
    ⟨0x1D442, 0x1D454, "o p q r s t u v w x y z a b c d e f g"⟩,
    ⟨0x1D456, 0x1D476, "i j k l m n o p q r s t u v w x y z a b c d e f g h i j k l m n o"⟩,
    ⟨0x1D477, 0x1D497, "p q r s t u v w x y z a b c d e f g h i j k l m n o p q r s t u v"⟩,
    ⟨0x1D498, 0x1D49C, "w x y z a"⟩, ⟨0x1D49E, 0x1D49F, "c d"⟩, ⟨0x1D4A2, 0x1D4A2, "g"⟩,
    ⟨0x1D4A5, 0x1D4A6, "j k"⟩, ⟨0x1D4A9, 0x1D4AC, "n o p q"⟩,
    ⟨0x1D4AE, 0x1D4B9, "s t u v w x y z a b c d"⟩, ⟨0x1D4BB, 0x1D4BB, "f"⟩,
    ⟨0x1D4BD, 0x1D4C3, "h i j k l m n"⟩,
    ⟨0x1D4C5, 0x1D4E5, "p q r s t u v w x y z a b c d e f g h i j k l m n o p q r s t u v"⟩,
    ⟨0x1D4E6, 0x1D505, "w x y z a b c d e f g h i j k l m n o p q r s t u v w x y z a b"⟩,
    ⟨0x1D507, 0x1D50A, "d e f g"⟩, ⟨0x1D50D, 0x1D514, "j k l m n o p q"⟩,
    ⟨0x1D516, 0x1D51C, "s t u v w x y"⟩,
    ⟨0x1D51E, 0x1D539, "a b c d e f g h i j k l m n o p q r s t u v w x y z a b"⟩,
    ⟨0x1D53B, 0x1D53E, "d e f g"⟩, ⟨0x1D540, 0x1D544, "i j k l m"⟩, ⟨0x1D546, 0x1D546, "o"⟩,
    ⟨0x1D54A, 0x1D550, "s t u v w x y"⟩,
    ⟨0x1D552, 0x1D572, "a b c d e f g h i j k l m n o p q r s t u v w x y z a b c d e f g"⟩,
    ⟨0x1D573, 0x1D593, "h i j k l m n o p q r s t u v w x y z a b c d e f g h i j k l m n"⟩,
    ⟨0x1D594, 0x1D5B4, "o p q r s t u v w x y z a b c d e f g h i j k l m n o p q r s t u"⟩,
    ⟨0x1D5B5, 0x1D5D5, "v w x y z a b c d e f g h i j k l m n o p q r s t u v w x y z a b"⟩,
    ⟨0x1D5D6, 0x1D5F6, "c d e f g h i j k l m n o p q r s t u v w x y z a b c d e f g h i"⟩,
    ⟨0x1D5F7, 0x1D617, "j k l m n o p q r s t u v w x y z a b c d e f g h i j k l m n o p"⟩,
    ⟨0x1D618, 0x1D638, "q r s t u v w x y z a b c d e f g h i j k l m n o p q r s t u v w"⟩,
    ⟨0x1D639, 0x1D659, "x y z a b c d e f g h i j k l m n o p q r s t u v w x y z a b c d"⟩,
    ⟨0x1D65A, 0x1D67A, "e f g h i j k l m n o p q r s t u v w x y z a b c d e f g h i j k"⟩,
    ⟨0x1D67B, 0x1D69B, "l m n o p q r s t u v w x y z a b c d e f g h i j k l m n o p q r"⟩,
    ⟨0x1D69C, 0x1D6A5, "s t u v w x y z ı ȷ"⟩,
    ⟨0x1D6A8, 0x1D6C8, "α β γ δ ε ζ η θ ι κ λ μ ν ξ ο π ρ θ σ τ υ φ χ ψ ω ∇ α β γ δ ε ζ η"⟩,
    ⟨0x1D6C9, 0x1D6E9, "θ ι κ λ μ ν ξ ο π ρ σ σ τ υ φ χ ψ ω ∂ ε θ κ φ ρ π α β γ δ ε ζ η θ"⟩,
    ⟨0x1D6EA, 0x1D70A, "ι κ λ μ ν ξ ο π ρ θ σ τ υ φ χ ψ ω ∇ α β γ δ ε ζ η θ ι κ λ μ ν ξ ο"⟩,
    ⟨0x1D70B, 0x1D72B, "π ρ σ σ τ υ φ χ ψ ω ∂ ε θ κ φ ρ π α β γ δ ε ζ η θ ι κ λ μ ν ξ ο π"⟩,
    ⟨0x1D72C, 0x1D74C, "ρ θ σ τ υ φ χ ψ ω ∇ α β γ δ ε ζ η θ ι κ λ μ ν ξ ο π ρ σ σ τ υ φ χ"⟩,
    ⟨0x1D74D, 0x1D76D, "ψ ω ∂ ε θ κ φ ρ π α β γ δ ε ζ η θ ι κ λ μ ν ξ ο π ρ θ σ τ υ φ χ ψ"⟩,
    ⟨0x1D76E, 0x1D78E, "ω ∇ α β γ δ ε ζ η θ ι κ λ μ ν ξ ο π ρ σ σ τ υ φ χ ψ ω ∂ ε θ κ φ ρ"⟩,
    ⟨0x1D78F, 0x1D7AF, "π α β γ δ ε ζ η θ ι κ λ μ ν ξ ο π ρ θ σ τ υ φ χ ψ ω ∇ α β γ δ ε ζ"⟩,
    ⟨0x1D7B0, 0x1D7CB, "η θ ι κ λ μ ν ξ ο π ρ σ σ τ υ φ χ ψ ω ∂ ε θ κ φ ρ π ϝ ϝ"⟩,
    ⟨0x1D7CE, 0x1D7EE, "0 1 2 3 4 5 6 7 8 9 0 1 2 3 4 5 6 7 8 9 0 1 2 3 4 5 6 7 8 9 0 1 2"⟩,
    ⟨0x1D7EF, 0x1D7FF, "3 4 5 6 7 8 9 0 1 2 3 4 5 6 7 8 9"⟩,
    ⟨0x1E030, 0x1E050, "а б в г д е ж з и к л м о п р с т у ф х ц ч ш ы э ю ꚉ ә і ј ө ү ӏ"⟩,
    ⟨0x1E051, 0x1E06D, "а б в г д е ж з и к л о п с у ф х ц ч ш ъ ы ґ і ѕ џ ҫ ꙑ ұ"⟩,
    ⟨0x1EE00, 0x1EE03, "\u0627 \u0628 \u062c \u062f"⟩,
    ⟨0x1EE05, 0x1EE0D, "\u0648 \u0632 \u062d \u0637 \u064a \u0643 \u0644 \u0645 \u0646"⟩,
    ⟨0x1EE0E, 0x1EE16, "\u0633 \u0639 \u0641 \u0635 \u0642 \u0631 \u0634 \u062a \u062b"⟩,
    ⟨0x1EE17, 0x1EE1F, "\u062e \u0630 \u0636 \u0638 \u063a \u066e \u06ba \u06a1 \u066f"⟩,
    ⟨0x1EE21, 0x1EE22, "\u0628 \u062c"⟩, ⟨0x1EE24, 0x1EE24, "\u0647"⟩,
    ⟨0x1EE27, 0x1EE27, "\u062d"⟩,
    ⟨0x1EE29, 0x1EE31, "\u064a \u0643 \u0644 \u0645 \u0646 \u0633 \u0639 \u0641 \u0635"⟩,
    ⟨0x1EE32, 0x1EE32, "\u0642"⟩, ⟨0x1EE34, 0x1EE37, "\u0634 \u062a \u062b \u062e"⟩,
    ⟨0x1EE39, 0x1EE39, "\u0636"⟩, ⟨0x1EE3B, 0x1EE3B, "\u063a"⟩, ⟨0x1EE42, 0x1EE42, "\u062c"⟩,
    ⟨0x1EE47, 0x1EE47, "\u062d"⟩, ⟨0x1EE49, 0x1EE49, "\u064a"⟩, ⟨0x1EE4B, 0x1EE4B, "\u0644"⟩,
    ⟨0x1EE4D, 0x1EE4F, "\u0646 \u0633 \u0639"⟩, ⟨0x1EE51, 0x1EE52, "\u0635 \u0642"⟩,
    ⟨0x1EE54, 0x1EE54, "\u0634"⟩, ⟨0x1EE57, 0x1EE57, "\u062e"⟩, ⟨0x1EE59, 0x1EE59, "\u0636"⟩,
    ⟨0x1EE5B, 0x1EE5B, "\u063a"⟩, ⟨0x1EE5D, 0x1EE5D, "\u06ba"⟩, ⟨0x1EE5F, 0x1EE5F, "\u066f"⟩,
    ⟨0x1EE61, 0x1EE62, "\u0628 \u062c"⟩, ⟨0x1EE64, 0x1EE64, "\u0647"⟩,
    ⟨0x1EE67, 0x1EE6A, "\u062d \u0637 \u064a \u0643"⟩,
    ⟨0x1EE6C, 0x1EE72, "\u0645 \u0646 \u0633 \u0639 \u0641 \u0635 \u0642"⟩,
    ⟨0x1EE74, 0x1EE77, "\u0634 \u062a \u062b \u062e"⟩,
    ⟨0x1EE79, 0x1EE7C, "\u0636 \u0638 \u063a \u066e"⟩, ⟨0x1EE7E, 0x1EE7E, "\u06a1"⟩,
    ⟨0x1EE80, 0x1EE88, "\u0627 \u0628 \u062c \u062f \u0647 \u0648 \u0632 \u062d \u0637"⟩,
    ⟨0x1EE89, 0x1EE89, "\u064a"⟩,
    ⟨0x1EE8B, 0x1EE93, "\u0644 \u0645 \u0646 \u0633 \u0639 \u0641 \u0635 \u0642 \u0631"⟩,
    ⟨0x1EE94, 0x1EE9B, "\u0634 \u062a \u062b \u062e \u0630 \u0636 \u0638 \u063a"⟩,
    ⟨0x1EEA1, 0x1EEA3, "\u0628 \u062c \u062f"⟩,
    ⟨0x1EEA5, 0x1EEA9, "\u0648 \u0632 \u062d \u0637 \u064a"⟩,
    ⟨0x1EEAB, 0x1EEB3, "\u0644 \u0645 \u0646 \u0633 \u0639 \u0641 \u0635 \u0642 \u0631"⟩,
    ⟨0x1EEB4, 0x1EEBB, "\u0634 \u062a \u062b \u062e \u0630 \u0636 \u0638 \u063a"⟩,
    ⟨0x1F101, 0x1F10A, "0, 1, 2, 3, 4, 5, 6, 7, 8, 9,"⟩,
    ⟨0x1F110, 0x1F11F, "(a) (b) (c) (d) (e) (f) (g) (h) (i) (j) (k) (l) (m) (n) (o) (p)"⟩,
    ⟨0x1F120, 0x1F12E, "(q) (r) (s) (t) (u) (v) (w) (x) (y) (z) 〔s〕 c r cd wz"⟩,
    ⟨0x1F130, 0x1F14D, "a b c d e f g h i j k l m n o p q r s t u v w x y z hv mv sd ss"⟩,
    ⟨0x1F14E, 0x1F14F, "ppv wc"⟩, ⟨0x1F16A, 0x1F16C, "mc md mr"⟩, ⟨0x1F190, 0x1F190, "dj"⟩,
    ⟨0x1F200, 0x1F202, "ほか ココ サ"⟩,
    ⟨0x1F210, 0x1F225, "手 字 双 デ 二 多 解 天 交 映 無 料 前 後 再 新 初 終 生 販 声 吹"⟩,
    ⟨0x1F226, 0x1F23B, "演 投 捕 一 三 遊 左 中 右 指 走 打 禁 空 合 満 有 月 申 割 営 配"⟩,
    ⟨0x1F240, 0x1F248, "〔本〕 〔三〕 〔二〕 〔安〕 〔点〕 〔打〕 〔盗〕 〔勝〕 〔敗〕"⟩,
    ⟨0x1F250, 0x1F251, "得 可"⟩, ⟨0x1FBF0, 0x1FBF9, "0 1 2 3 4 5 6 7 8 9"⟩]

/-- Characters that stand for nothing. -/
def ignoredRanges : CodePointRanges := [
    (0xAD, 0xAD), (0x34F, 0x34F), (0x115F, 0x1160), (0x17B4, 0x17B5), (0x180B, 0x180F),
    (0x200B, 0x200B), (0x2060, 0x2064), (0x206A, 0x206F), (0x3164, 0x3164), (0xFE00, 0xFE0F),
    (0xFEFF, 0xFEFF), (0xFFA0, 0xFFA0), (0x1BCA0, 0x1BCA3), (0x1D173, 0x1D17A),
    (0xE0100, 0xE01EF)]

/-- Capital letters without a small form in domain names, and the two joiners. -/
def keptRanges : CodePointRanges := [
    (0x13A0, 0x13F5), (0x200C, 0x200D)]

/-- Characters that no domain name may hold, or that stand for a text with a space in it. -/
def refusedRanges : CodePointRanges := [
    (0xA8, 0xA8), (0xAF, 0xAF), (0xB4, 0xB4), (0xB8, 0xB8), (0x2D8, 0x2DD), (0x37A, 0x37A),
    (0x384, 0x385), (0x1FBD, 0x1FBD), (0x1FBF, 0x1FC1), (0x1FCD, 0x1FCF), (0x1FDD, 0x1FDF),
    (0x1FED, 0x1FEE), (0x1FFD, 0x1FFE), (0x2017, 0x2017), (0x2024, 0x2026), (0x203E, 0x203E),
    (0x2488, 0x249B), (0x2FF0, 0x2FFF), (0x309B, 0x309C), (0x31EF, 0x31EF), (0x33C2, 0x33C2),
    (0x33C7, 0x33C7), (0x33D8, 0x33D8), (0xFC5E, 0xFC63), (0xFDFA, 0xFDFB), (0xFE12, 0xFE12),
    (0xFE19, 0xFE19), (0xFE30, 0xFE30), (0xFE49, 0xFE4C), (0xFE52, 0xFE52), (0xFE70, 0xFE70),
    (0xFE72, 0xFE72), (0xFE74, 0xFE74), (0xFE76, 0xFE76), (0xFE78, 0xFE78), (0xFE7A, 0xFE7A),
    (0xFE7C, 0xFE7C), (0xFE7E, 0xFE7E), (0xFFE3, 0xFFE3), (0xFFFC, 0xFFFD), (0x1F100, 0x1F100)]

end ChatSteward.Net

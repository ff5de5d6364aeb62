/-
This file holds the scripts of the Unicode character database. For each script it gives
the characters that belong to it alone and the characters that are used with it, as
runs; an equals sign stands for the same runs again.
-/

namespace Intercept.Unicode

/-- The scripts, each with its names, its runs, and the runs of the characters that are also
used with it. -/
def scriptTable : List (List String × String × String) := [
  (["adlm", "adlam"],
    "2olc 24 4 a 4 2",
    "17j 1 w 1 2ncv 24 4 a 4 2"),
  (["ahom"],
    "1j40 r 2 f 4 n",
    "="),
  (["hluw", "anatolianhieroglyphs"],
    "1s00 g7",
    "="),
  (["arab", "arabic"],
    "16o 5 1 6 1 e 1 3 1 w 1 a b q 1 30 1 y 28 1c 6o v 1 2 6 22 1 t 1bv4 37 g a3 2 28 2 1i 7 1
    w g 34 5 1 3r 31f v 3i 3 181s 4 1 r 1 2 1 1 2 1 1 a 1 4 1 1 1 1 6 1 4 1 1 1 1 1 1 3 1 2 1
    1 2 1 1 1 1 1 1 1 1 1 1 2 1 1 2 4 1 7 1 4 1 4 1 1 1 a 1 h 5 3 1 5 1 h 1g 2",
    "16o 5 1 5z 1 y 28 1c 6o v 1 2 6 22 1 t 1bv4 37 g cd 2 1i 7 1 w g 34 5 1 3r rn s 290 v 3i 3
    181s 4 1 r 1 2 1 1 2 1 1 a 1 4 1 1 1 1 6 1 4 1 1 1 1 1 1 3 1 2 1 1 2 1 1 1 1 1 1 1 1 1 1 2
    1 1 2 4 1 7 1 4 1 4 1 1 1 a 1 h 5 3 1 5 1 h 1g 2"),
  (["armn", "armenian"],
    "10x 12 2 1e 2 3 1chv 5",
    "="),
  (["avst", "avestan"],
    "1gqo 1i 3 7",
    "="),
  (["bali", "balinese"],
    "5c0 25 3 1b",
    "="),
  (["bamu", "bamum"],
    "www 2g 124o ft",
    "="),
  (["bass", "bassavah"],
    "1zo0 u 2 6",
    "="),
  (["batk", "batak"],
    "5hc 1g 8 4",
    "="),
  (["beng", "bengali"],
    "1vk 4 1 8 2 2 2 m 1 7 1 1 3 4 2 9 2 2 2 4 8 1 4 2 1 5 2 p",
    "1u9 2 h 2 q 4 1 8 2 2 2 m 1 7 1 1 3 4 2 9 2 2 2 4 8 1 4 2 1 5 2 p 3pt 1 1 1 2 2 1 1 8 1 8
    1 2 1 4 1 2 3 rnd 1"),
  (["bhks", "bhaiksuki"],
    "1k3k 9 1 19 1 e a t",
    "="),
  (["bopo", "bopomofo"],
    "kq 2 93t 17 34 w",
    "kq 2 8wl 3 4 a 1 d a 4 2 1 6 1 5f 1 9 17 34 w 14ed 2 7u 5"),
  (["brah", "brahmi"],
    "1hq8 26 4 10 9 1",
    "="),
  (["brai", "braille"],
    "7wg 74",
    "="),
  (["bugi", "buginese"],
    "54w s 2 2",
    "54w s 2 2 sdr 1"),
  (["buhd", "buhid"],
    "4lc k",
    "4l1 2 9 k"),
  (["cans", "canadianaboriginal"],
    "3y8 hs fk 1y 1ewq g",
    "="),
  (["cari", "carian"],
    "1f34 1d",
    "="),
  (["aghb", "caucasianalbanian"],
    "1flc 1g b 1",
    "="),
  (["cakm", "chakma"],
    "1hxc 1h 1 i",
    "1ye a 18w a 1epi 1h 1 i"),
  (["cham"],
    "xkw 1j 9 e 2 a 2 4",
    "="),
  (["cher", "cherokee"],
    "3vk 2e 2 6 twy 28",
    "="),
  (["chrs", "chorasmian"],
    "1ho0 s",
    "="),
  (["zyyy", "common"],
    "0 1t q 6 q 1b 1 f 1 5 n 1 v 1 ch 13 5 5 2 k 38 1 9 1 6 1 1 1 hp 1 6 1 e 1 3 1 w 1 4c 1 ec
    1 3l 2 yh 1 b9 4 82 1 167 3 1z 2 5n 2 1 1 y5 1 d 1 7 4 1 6 1 3 2 1 lh c 2 2f 1 b 3 b 1 f h
    x 1r 12 1 3 2 6 1 r 1 h 15 3 4 if p b l ps 74 hg 2 w 1 2x e8 2m b6 c 4 5 1 1 1 p f 8 4 4
    2j 2 3 1 2i 2 43 g w 10 1o 1s v 29 1b 1 2g 4o 534 1s hkw y 2u 3 4l a 6s 1 4g 1 az 1 e 2
    g5u 2 5s a m z 1 j 1 4 43 1 1 w q 6 q b a 1 19 2 1s 7 1 7 a 5 76 3 4 19 3 9 28 d 1f 19 6c
    r 10o4 4 3os 38 1o 6u a 13 2 1q 3 h 8 2 7 u 4 1p 5x k c k c 2f 9 p 3r 2d 1 1z 1 2 2 1 2 2
    2 4 1 c 1 1 1 7 1 1t 1 4 2 8 1 7 1 s 1 4 1 5 1 1 3 7 1 9g 2 84 2 1e 41d 1w 24 1p jm 18 4
    2s c f 2 f 1 f 1 11 a 4u 1k q 1 2 d 18 4 9 7 2 e 6 4a rc 4 h 3 d 3 3b 4 2n 6 c 4 1 f c 4
    1k 8 a 6 14 8 u 2 2 26 9g c e 2 d 3 9 7 1a 1 7 8 e 4 9 7 9 7 43 1 1j 11 a gvlz 1 u 2o",
    "0 1t q 6 q 1b 1 f 1 5 n 1 v 1 ch 13 5 5 2 k 38 1 9 1 6 1 1 1 hp 1 5z 1 ec 1 124 1 b9 4 1ea
    3 1si c 2 x 1 1h 1 b 3 b 1 f h x 1r 12 1 3 2 6 1 r 1 h 15 3 4 if p b l ps 74 hg 2 w 1 2x
    e8 1v 1 q b6 c 4 1 3 1 d 1 d 1 l 1 ep o v 1 1d f c 4 4h a 5 2o v 1 534 1s hl4 q 2u 3 r4 1
    e 2 gbo a m l 2 c 1 j 1 4 43 1 1 w q 6 q 6 3j 7 1 7 a 5 b6 d 1f 19 14k3 38 1o 6u a 13 2 1q
    3 h 8 2 7 u 4 1p 5x k c k c 2f r 7 3r 2d 1 1z 1 2 2 1 2 2 2 4 1 c 1 1 1 7 1 1t 1 4 2 8 1 7
    1 s 1 4 1 5 1 1 3 7 1 9g 2 84 2 1e 41d 1w 24 1p jm 18 4 2s c f 2 f 1 f 1 11 a 4u 1k q 1 2
    d 18 4 9 n 6 4a rc 4 h 3 d 3 3b 4 2n 6 c 4 1 f c 4 1k 8 a 6 14 8 u 2 2 26 9g c e 2 d 3 9 7
    1a 1 7 8 e 4 9 7 9 7 43 1 1j 11 a gvlz 1 u 2o"),
  (["copt", "coptic", "qaac"],
    "rm e 80g 38 5 7",
    "rm e 80g 38 5 7 168w s"),
  (["xsux", "cuneiform"],
    "1kw0 pm 2u 33 1 5 b 5g",
    "="),
  (["cprt", "cypriot"],
    "1g5c 6 2 1 1 18 1 2 3 1 2 1",
    "1erk 3 4 19 3 9 1c0 6 2 1 1 18 1 2 3 1 2 1"),
  (["cpmn", "cyprominoan"],
    "1nyo 2r",
    "1erk 2 972 2r"),
  (["cyrl", "cyrillic"],
    "sg 3p 2 4p 4ls 9 4i 1 24 1 38n w nr4 2o ham 2 18n4 1q x 1",
    "sg 8g 4ls 9 4i 1 24 1 3j 1 353 w 1v 1 np8 2o ham 2 18n4 1q x 1"),
  (["dsrt", "deseret"],
    "1fcw 28",
    "="),
  (["deva", "devanagari"],
    "1s0 29 4 f 2 q vhc w mio a",
    "1s0 2b 2 17 3tc 13 1 2 s6 1 qpr a 4m w mio a"),
  (["diak", "divesakuru"],
    "1ji8 7 2 1 2 8 1 2 1 u 1 2 2 c 9 a",
    "="),
  (["dogr", "dogra"],
    "1jb4 1o",
    "1us c vcw a m2u 1o"),
  (["dupl", "duployan"],
    "2fpc 2z 5 d 3 9 7 a 2 4",
    "2fpc 2z 5 d 3 9 7 a 2 8"),
  (["egyp", "egyptianhieroglyphs"],
    "1o1s uu",
    "="),
  (["elba", "elbasan"],
    "1fk0 14",
    "="),
  (["elym", "elymaic"],
    "1hpc n",
    "="),
  (["ethi", "ethiopic"],
    "3k0 21 1 4 2 7 1 1 1 4 2 15 1 4 2 x 1 4 2 7 1 1 1 4 2 f 1 1l 1 4 2 1v 2 w 3 q 546 n 9 7 1
    7 1 7 1 7 1 7 1 7 1 7 1 7 opu 6 2 6 2 6 9 7 1 7 1qk1 7 1 4 1 2 1 f",
    "="),
  (["geor", "georgian"],
    "3a8 12 1 1 5 1 2 17 1 4 2a8 17 2 3 37k 12 1 1 5 1",
    "3a8 12 1 1 5 1 2 1c 2a8 17 2 3 37k 12 1 1 5 1"),
  (["glag", "glagolitic"],
    "8ow 2o 2e1s 7 1 h 2 7 1 2 1 5",
    "w4 1 2 1 7so 2o df 1 nqj 1 1pxs 7 1 h 2 7 1 2 1 5"),
  (["goth", "gothic"],
    "1f74 r",
    "="),
  (["gran", "grantha"],
    "1ibk 4 1 8 2 2 2 m 1 7 1 2 1 5 2 9 2 2 2 3 2 1 6 1 5 7 2 7 3 5",
    "1u9 2 h 2 hs e 3bw 1 1 2 u 3 3 2 s6 1 1btb 4 1 8 2 2 2 m 1 7 1 2 1 5 1 a 2 2 2 3 2 1 6 1 5
    7 2 7 3 5 2fv 2 1 1"),
  (["grek", "greek"],
    "og 4 1 3 2 4 1 1 4 1 1 1 1 3 1 1 1 k 1 1r e g 4yu 5 1e 5 4 5 2c 1 8w m 2 6 2 12 2 6 2 8 1
    1 1 1 1 1 1 v 2 1h 1 f 1 e 2 6 1 j 2 3 1 9 87 1 rb2 1 gyi 27 h 1 155r 1y",
    "n6 1 2 1 16 4 1 3 2 4 1 1 4 1 1 1 1 3 1 1 1 k 1 1r e g 4yu 5 1e 5 4 5 2c 3 8u m 2 6 2 12 2
    6 2 8 1 1 1 1 1 1 1 v 2 1h 1 f 1 e 2 6 1 j 2 3 1 9 87 1 rb2 1 gyi 27 h 1 155r 1y"),
  (["gujr", "gujarati"],
    "22p 3 1 9 1 3 1 m 1 7 1 2 1 5 2 a 1 3 1 3 2 1 f 4 2 c 7 7",
    "1u9 2 h 2 7v 3 1 9 1 3 1 m 1 7 1 2 1 5 2 a 1 3 1 3 2 1 f 4 2 c 7 7 v1s a"),
  (["gong", "gunjalagondi"],
    "1kdc 6 1 2 1 11 1 2 1 6 7 a",
    "1us 2 1iii 6 1 2 1 11 1 2 1 6 7 a"),
  (["guru", "gurmukhi"],
    "1z5 3 1 6 4 2 2 m 1 7 1 2 1 2 1 2 2 1 1 5 4 2 2 3 3 1 7 4 1 1 7 h",
    "1u9 2 h 2 4b 3 1 6 4 2 2 m 1 7 1 2 1 2 1 2 2 1 1 5 4 2 2 3 3 1 7 4 1 1 7 h v5l a"),
  (["hani", "han"],
    "96o q 1 2h c 5y 1b 1 1 1 p 9 e 4 qs 534 1s g74 hkw a6 2 2y n48 2 c 2 sge wyo w 37e 6 66 2
    4g2 e 5rl 2e7 f2 15u 3t7 5 38g",
    "96o q 1 2h c 5y 17 3 1 d 1 d 1 d 2 1 6 9 57 1 44 g w 10 1o 14 1k 1d f c 1f 1 2g p a 5 2o v
    1 534 1s g74 1ds 8 g6w a6 2 2y ob 2 7u 5 m7w 2 c 2 jn2 i 63i 2 2pa wyo w 37e 6 66 2 4g2 e
    5rl 2e7 f2 15u 3t7 5 38g"),
  (["hang", "hangul"],
    "3cw 74 5ym 2 75 2m 35 v 1t v nhd t hv 8mc c n 4 1d 7tw v 3 6 2 6 2 6 2 3",
    "3cw 74 5xd 3 4 a 1 d e 3 6 1 5f 1 1h 2m 35 v 1t v nhd t hv 8mc c n 4 1d 7k9 2 7u 5 1m v 3
    6 2 6 2 6 2 3"),
  (["rohg", "hanifirohingya"],
    "1h4w 14 8 a",
    "170 1 e 1 3 1 w 1 43 1 1fsb 14 8 a"),
  (["hano", "hanunoo"],
    "4kg l",
    "4kg n"),
  (["hatr", "hatran"],
    "1gbk j 1 2 5 5",
    "="),
  (["hebr", "hebrew"],
    "13l 1j 8 r 4 6 1cfc q 1 5 1 1 1 2 1 2 1 a",
    "="),
  (["hira", "hiragana"],
    "9j5 2e 6 3 23q9 7z i 1 t 3 crx 1",
    "9hd 3 4 a 1 d g 6 1 1 4 2 3 2e 2 8 2i 2 14js 2 7u 5 a 1 19 2 yu9 7z i 1 t 3 crx 1"),
  (["armi", "imperialaramaic"],
    "1g74 m 1 9",
    "="),
  (["zinh", "inherited", "qaai"],
    "lc 34 7p 2 ck b q 1 kg 4 3ff v e9 3 1 d 1 7 4 1 6 1 3 2 5i 1s ek 2 5e x 309 4 2z 2 14kl g
    g e r3 1 6a 1 38a 1 1138 1a 2 n f4 3 h 8 2 7 u 4 h45u 6o",
    "lc 1u 1 2 1 t 168 2 3ff v kz 1i 1 1 1 5 ek 2 5e w 17o0 g g e r3 1 14hu 1a 2 n f4 3 h 8 2 7
    u 4 h45u 6o"),
  (["phli", "inscriptionalpahlavi"],
    "1gtc j 5 8",
    "="),
  (["prti", "inscriptionalparthian"],
    "1gsg m 2 8",
    "="),
  (["java", "javanese"],
    "xhc 26 2 a 4 2",
    "xhc 26 1 b 4 2"),
  (["kthi", "kaithi"],
    "1hts 1v a 1",
    "1uu a vcw a kli 1v a 1"),
  (["knda", "kannada"],
    "2gw d 1 3 1 n 1 a 1 5 2 9 1 3 1 4 7 2 6 2 1 4 2 a 1 3",
    "1u9 2 h 2 m2 d 1 3 1 n 1 a 1 5 2 9 1 3 1 4 7 2 6 2 1 4 2 a 1 3 34s 1 1 1 7 1 n 1 1 1 ri3 6"),
  (["kana", "katakana"],
    "9lt 2i 2 3 6o g 5s 1b 1 2g 14b2 a 1 19 ytu 4 1 7 1 2 1 1 7z 3 1e 1 e 4",
    "9hd 3 4 a 1 d g 6 1 1 4 2 2j 4 3 2o 6o g 5s 1b 1 2g 1431 2 7u 1r yts 4 1 7 1 2 1 1 7z 3 1e
    1 e 4"),
  (["kawi"],
    "1kow h 1 15 3 s",
    "="),
  (["kali", "kayahli"],
    "xds 1a 1 1",
    "xds 1c"),
  (["khar", "kharoshthi"],
    "1gjk 4 1 2 5 8 1 3 1 t 2 3 4 a 7 9",
    "="),
  (["kits", "khitansmallscript"],
    "20o4 1 5cr d2",
    "="),
  (["khmr", "khmer"],
    "4n4 2m 2 a 6 a di w",
    "="),
  (["khoj", "khojki"],
    "1i4g i 1 1b",
    "25i a v28 a kw6 i 1 1b"),
  (["sind", "khudawadi"],
    "1i9c 1n 5 a",
    "1us 2 vd6 a l12 1n 5 a"),
  (["laoo", "lao"],
    "2v5 2 1 1 1 5 1 o 1 1 1 n 2 5 1 1 1 7 1 a 2 4",
    "="),
  (["latn", "latin"],
    "1t q 6 q 1b 1 f 1 5 n 1 v 1 ch 13 5 55n 12 6 1d 5 4 5 d 1 1y 1t 74 a9 1 d 1 g d 3x 2 6 1 r
    1 h 15 253 w o82 2u 3 1s 5 2 1 1 1 5 o e mo 17 1 9 1 4 fpy 7 t6 q 6 q 1lx 6 1 16 1 9 16it
    v 6 6",
    "1t q 6 q 1b 1 f 1 5 n 1 v 1 ch 13 5 3i d 7p 2 y2 2 1ig 1 2dg 12 6 1d 5 4 5 d 1 1y 1t 74 8f
    1 1t 1 d 1 g d 2b 1 1l 2 6 1 r 1 h 15 253 w o74 8 q 2u 3 1s 5 2 1 1 1 5 o e 8e 1 e9 17 1 9
    1 4 fpy 7 t6 q 6 q 1lx 6 1 16 1 9 16it v 6 6"),
  (["lepc", "lepcha"],
    "5j4 1k 3 f 3 3",
    "="),
  (["limb", "limbu"],
    "4xs v 1 c 4 c 4 1 3 c",
    "1ut 1 32y v 1 c 4 c 4 1 3 c"),
  (["lina", "lineara"],
    "1fr4 8n 9 m a 8",
    "1err 19 y4 8n 9 m a 8"),
  (["linb", "linearb"],
    "1ekg c 1 q 1 j 1 2 1 f 2 e y 3f",
    "1ekg c 1 q 1 j 1 2 1 f 2 e y 3f 5 3 4 19 3 9"),
  (["lisu"],
    "wk0 1c o8g 1",
    "="),
  (["lyci", "lycian"],
    "1f28 t",
    "="),
  (["lydi", "lydian"],
    "1gdc q 5 1",
    "="),
  (["mahj", "mahajani"],
    "1hzk 13",
    "1us c vcw a kra 13"),
  (["maka", "makasar"],
    "1ko0 p",
    "="),
  (["mlym", "malayalam"],
    "2kg d 1 3 1 1f 1 3 1 6 4 g 2 q",
    "1u9 2 h 2 pm d 1 3 1 1f 1 3 1 6 4 g 2 q 316 1 rit 3"),
  (["mand", "mandaic"],
    "1mo s 2 1",
    "18g 1 e7 s 2 1"),
  (["mani", "manichaean"],
    "1gow 13 4 c",
    "18g 1 1fgf 13 4 c"),
  (["marc", "marchen"],
    "1k6o w 2 m 1 e",
    "="),
  (["gonm", "masaramgondi"],
    "1kao 7 1 2 1 18 3 1 1 2 1 9 8 a",
    "1us 2 1ifu 7 1 2 1 18 3 1 1 2 1 9 8 a"),
  (["medf", "medefaidrin"],
    "20cg 2j",
    "="),
  (["mtei", "meeteimayek"],
    "xr4 n 5l 1a 2 a",
    "="),
  (["mend", "mendekikakui"],
    "2oe8 5h 2 g",
    "="),
  (["merc", "meroiticcursive"],
    "1ggw o 4 k 2 1a",
    "="),
  (["mero", "meroitichieroglyphs"],
    "1gg0 w",
    "="),
  (["plrd", "miao"],
    "20hs 23 4 1l 7 h",
    "="),
  (["modi"],
    "1iww 1x b a",
    "x80 a lom 1x b a"),
  (["mong", "mongolian"],
    "4qo 2 2 1 1 k 6 2h 7 17 1e45 d",
    "4qo q 6 2h 7 17 1hg 1 1cmo d"),
  (["mroo", "mro"],
    "1zk0 v 1 a 4 2",
    "="),
  (["mult", "multani"],
    "1i80 7 1 1 1 4 1 f 1 b",
    "21y a 1g5s 7 1 1 1 4 1 f 1 b"),
  (["mymr", "myanmar"],
    "35s 4g u9s v 2p w",
    "35s 4g u4u 1 4x v 2p w"),
  (["nbat", "nabataean"],
    "1g8w v 8 9",
    "="),
  (["nagm", "nagmundari"],
    "2nrk 16",
    "="),
  (["nand", "nandinagari"],
    "1jmo 8 2 1a 2 b",
    "1us 2 ow a 35l 1 8 1 7 1 rhx 6 mei 8 2 1a 2 b"),
  (["talu", "newtailue"],
    "51c 18 4 q 6 b 3 2",
    "="),
  (["newa"],
    "1iio 2k 1 5",
    "="),
  (["nkoo", "nko"],
    "1j4 1n 2 3",
    "170 1 e 1 3 1 bk 1n 2 3 1cfy 2"),
  (["nshu", "nushu"],
    "20o1 1 cy6 b0",
    "="),
  (["hmnp", "nyiakengpuachuehmong"],
    "2n0g 19 3 e 2 a 4 2",
    "="),
  (["ogam", "ogham"],
    "4g0 t",
    "="),
  (["olck", "olchiki"],
    "5lc 1c",
    "="),
  (["hung", "oldhungarian"],
    "1h1c 1f d 1f 7 6",
    "="),
  (["ital", "olditalic"],
    "1f5s 10 9 3",
    "="),
  (["narb", "oldnortharabian"],
    "1gn4 w",
    "="),
  (["perm", "oldpermic"],
    "1f80 17",
    "w3 1 1ebw 17"),
  (["xpeo", "oldpersian"],
    "1fa8 10 4 e",
    "="),
  (["sogo", "oldsogdian"],
    "1hj4 14",
    "="),
  (["sarb", "oldsoutharabian"],
    "1gm8 w",
    "="),
  (["orkh", "oldturkic"],
    "1gxs 21",
    "="),
  (["ougr", "olduyghur"],
    "1hm8 q",
    "18g 1 1fht 1 vx q"),
  (["orya", "oriya"],
    "269 3 1 8 2 2 2 m 1 7 1 2 1 5 2 9 2 2 2 3 7 3 4 2 1 5 2 i",
    "1u9 2 h 2 bf 3 1 8 2 2 2 m 1 7 1 2 1 5 2 9 2 2 2 3 7 3 4 2 1 5 2 i 3fm 1 n 1"),
  (["osge", "osage"],
    "1fhs 10 4 10",
    "="),
  (["osma", "osmanya"],
    "1fgg u 2 a",
    "="),
  (["hmng", "pahawhhmong"],
    "1zpc 1y a a 1 7 1 l 5 j",
    "="),
  (["palm", "palmyrene"],
    "1g80 w",
    "="),
  (["pauc", "paucinhau"],
    "1juo 1l",
    "="),
  (["phag", "phagspa"],
    "x8g 1k",
    "4qq 2 1 1 shm 1k"),
  (["phnx", "phoenician"],
    "1gcg s 3 1",
    "="),
  (["phlp", "psalterpahlavi"],
    "1gu8 i 7 4 c 7",
    "18g 1 1flr i 7 4 c 7"),
  (["rjng", "rejang"],
    "xf4 10 b 1",
    "="),
  (["runr", "runic"],
    "4gw 23 3 b",
    "="),
  (["samr", "samaritan"],
    "1kw 1a 2 f",
    "="),
  (["saur", "saurashtra"],
    "xa8 1y 8 c",
    "="),
  (["shrd", "sharada"],
    "1i0w 2o",
    "1u9 1 3ut 1 1 1 2 2 2 1 1cbj 2o"),
  (["shaw", "shavian"],
    "1ff4 1c",
    "="),
  (["sidd", "siddham"],
    "1itc 1i 2 12",
    "="),
  (["sgnw", "signwriting"],
    "2l8g i4 f 5 1 f",
    "="),
  (["sinh", "sinhala"],
    "2o1 3 1 i 3 o 1 9 1 1 2 7 3 1 4 6 1 1 1 8 6 a 2 3 1fcc k",
    "1us 2 t7 3 1 i 3 o 1 9 1 1 2 7 3 1 4 6 1 1 1 8 6 a 2 3 1fcc k"),
  (["sogd", "sogdian"],
    "1hkg 16",
    "18g 1 1gbz 16"),
  (["sora", "sorasompeng"],
    "1hw0 p 7 a",
    "="),
  (["soyo", "soyombo"],
    "1jrk 2b",
    "="),
  (["sund", "sundanese"],
    "5fk 1s 74 8",
    "="),
  (["sylo", "sylotinagri"],
    "x6o 19",
    "1us 2 3k a v80 19"),
  (["syrc", "syriac"],
    "1ds e 1 1o 2 3 7k b",
    "170 1 e 2 2 1 w 1 a b q 1 3z e 1 1o 2 3 7k b 499 1 1 1"),
  (["tglg", "tagalog"],
    "4jk m 9 1",
    "4jk m 9 1 l 2"),
  (["tagb", "tagbanwa"],
    "4m8 d 1 3 1 2",
    "4l1 2 15 d 1 3 1 2"),
  (["tale", "taile"],
    "500 u 2 5",
    "37k a 1s6 u 2 5"),
  (["lana", "taitham"],
    "55s 1r 1 t 2 b 6 a 6 e",
    "="),
  (["tavt", "taiviet"],
    "xog 1v o 5",
    "="),
  (["takr", "takri"],
    "1j0g 1m 6 a",
    "1us 2 vd6 a ls6 1m 6 a"),
  (["taml", "tamil"],
    "29u 2 1 6 3 3 1 4 3 2 1 1 1 2 3 2 3 3 3 c 4 5 3 3 1 4 2 1 6 1 e l 1ih1 1e d 1",
    "1u9 2 h 2 f0 2 1 6 3 3 1 4 3 2 1 1 1 2 3 2 3 3 3 c 4 5 3 3 1 4 2 1 6 1 e l 3bz 1 ro8 1 ky5
    1 1 1 1j 2 2gz 1e d 1"),
  (["tnsa", "tangsa"],
    "1zlc 27 1 a",
    "="),
  (["tang", "tangut"],
    "20o0 1 v 4qg 8 lc e8 9",
    "="),
  (["telu", "telugu"],
    "2dc d 1 3 1 n 1 g 2 9 1 3 1 4 7 2 1 3 2 1 2 4 2 a 7 9",
    "1u9 2 h 2 ii d 1 3 1 n 1 g 2 9 1 3 1 4 7 2 1 3 2 1 2 4 2 a 7 9 38a 1 n 1"),
  (["thaa", "thaana"],
    "1hc 1e",
    "170 1 e 2 2 1 1s a 7q 1e 1cn4 1 a 1"),
  (["thai"],
    "2rl 1m 5 s",
    "="),
  (["tibt", "tibetan"],
    "2yo 20 1 10 4 13 1 10 1 f 1 7 4 2",
    "="),
  (["tfng", "tifinagh"],
    "8xc 1k 7 2 e 1",
    "="),
  (["tirh", "tirhuta"],
    "1im8 20 8 a",
    "1u9 2 h 2 3v0 1 ri5 a ldy 20 8 a"),
  (["toto"],
    "2nbk v",
    "="),
  (["ugar", "ugaritic"],
    "1f9c u 1 1",
    "="),
  (["vaii", "vai"],
    "wlc 8c",
    "="),
  (["vith", "vithkuqi"],
    "1fn4 b 1 f 1 7 1 2 1 b 1 f 1 7 1 2",
    "="),
  (["wcho", "wancho"],
    "2ncw 1m 5 1",
    "="),
  (["wara", "warangciti"],
    "1jfk 2b c 1",
    "="),
  (["yezi", "yezidi"],
    "1hfk 16 1 3 2 2",
    "170 1 e 1 3 1 1s a 1g5y 16 1 3 2 2"),
  (["yiii", "yi"],
    "vls wd 3 1j",
    "9hd 2 5 a 2 8 67 1 lxg wd 3 1j hwa 5"),
  (["zanb", "zanabazarsquare"],
    "1jpc 20",
    "=")]

end Intercept.Unicode

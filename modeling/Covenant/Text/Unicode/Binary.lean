import Covenant.Text.Unicode.Runs

/-!
# Unicode binary properties

A binary property is a set of code points. Each is written as the increasing list of its
boundaries: the code points where membership changes, starting outside. A code point is a
member when an odd number of boundaries are at or before it.
-/

namespace Covenant.Text.Unicode

/-- The boundaries written in a table text. -/
def readBoundaries (text : String) : Array Nat :=
  ((text.splitOn " ").filter (· != "")).map base36 |>.toArray

/-- Whether a code point is in the set a boundary list describes. The search halves the
range `[lo, hi)` of boundaries not yet known to be at or before it. -/
def inBoundaries (bounds : Array Nat) (v : Nat) : Bool :=
  let rec count : Nat → Nat → Nat → Nat
    | 0, lo, _ => lo
    | fuel + 1, lo, hi =>
      if hi ≤ lo then lo
      else
        let mid := (lo + hi) / 2
        if bounds.getD mid 0 ≤ v then count fuel (mid + 1) hi else count fuel lo mid
  count 64 0 bounds.size % 2 == 1

/-- The boundaries of ASCII Hex Digit. -/
def asciiHexDigitTable : String :=
  String.join
    ["1c 1m 1t 1z 2p 2v"]

def asciiHexDigitSet : Array Nat := readBoundaries asciiHexDigitTable

/-- The boundaries of Alphabetic. -/
def alphabeticTable : String :=
  String.join
    ["1t 2j 2p 3f 4q 4r 51 52 56 57 5c 5z 60 6v 6w jm jq k2 kg kl ks kt ku kv n9 na og ol om oo oq ou ",
     "ov ow p2 p3 p4 p7 p8 p9 pa pu pv s6 s7 w2 wa 10w 10x 11z 121 122 128 13d 14g 14u 14v 14w 14x 14z ",
     "150 152 153 154 15c 163 167 16b 174 17f 17k 194 195 19c 19q 1ck 1cl 1ct 1cx 1d5 1d9 1dc 1dm 1dp ",
     "1dr 1ds 1e8 1fk 1fx 1iq 1je 1kb 1kk 1km 1kq 1kr 1kw 1lk 1lm 1m5 1mo 1nd 1nk 1nv 1o0 1oo 1op 1ov ",
     "1pc 1qi 1qs 1r4 1r7 1re 1rk 1to 1tp 1u5 1u6 1u9 1ud 1us 1v5 1vo 1vp 1vx 1vz 1w1 1w3 1wp 1wq 1wx ",
     "1wy 1wz 1x2 1x6 1x9 1xh 1xj 1xl 1xn 1xp 1xq 1xr 1xz 1y0 1y4 1y6 1y7 1yc 1yo 1yq 1z0 1z1 1z5 1z8 ",
     "1z9 1zf 1zj 1zl 1zn 209 20a 20h 20i 20k 20l 20n 20o 20q 20u 20z 213 215 217 219 21d 21e 21l 21p ",
     "21q 21r 228 22e 22p 22s 22t 232 233 236 237 23t 23u 241 242 244 245 24a 24d 24m 24n 24q 24r 24t ",
     "24w 24x 25c 25g 261 265 269 26c 26d 26l 26n 26p 26r 27d 27e 27l 27m 27o 27p 27u 27x 285 287 289 ",
     "28b 28d 28m 28o 28s 28u 28v 290 29d 29e 29u 29w 29x 2a3 2a6 2a9 2aa 2ae 2ah 2aj 2ak 2al 2am 2ao ",
     "2ar 2at 2aw 2az 2b2 2be 2bi 2bn 2bq 2bt 2bu 2bx 2c0 2c1 2c7 2c8 2dc 2dp 2dq 2dt 2du 2eh 2ei 2ey ",
     "2f1 2f9 2fa 2fd 2fe 2fh 2fp 2fr 2fs 2fv 2fx 2fy 2g0 2g4 2gw 2h0 2h1 2h9 2ha 2hd 2he 2i1 2i2 2ic ",
     "2id 2ii 2il 2it 2iu 2ix 2iy 2j1 2j9 2jb 2jh 2jj 2jk 2jo 2k1 2k4 2kg 2kt 2ku 2kx 2ky 2m3 2m5 2md ",
     "2me 2mh 2mi 2ml 2mm 2mn 2ms 2mw 2n3 2n8 2nu 2o0 2o1 2o4 2o5 2on 2oq 2pe 2pf 2po 2pp 2pq 2ps 2pz ",
     "2q7 2qd 2qe 2qf 2qg 2qo 2r6 2r8 2rl 2t7 2tc 2tj 2tp 2tq 2v5 2v7 2v8 2v9 2va 2vf 2vg 2w4 2w5 2w6 ",
     "2w7 2wq 2wr 2wu 2ww 2x1 2x2 2x3 2x9 2xa 2xo 2xs 2yo 2yp 30g 30o 30p 31p 31t 32c 32g 32w 32x 33x ",
     "35s 37b 37c 37d 37f 37k 380 39s 3a2 3a6 3a8 3ba 3bb 3bc 3bh 3bi 3bk 3cr 3cs 3m1 3m2 3m6 3m8 3mf ",
     "3mg 3mh 3mi 3mm 3mo 3nt 3nu 3ny 3o0 3ox 3oy 3p2 3p4 3pb 3pc 3pd 3pe 3pi 3pk 3pz 3q0 3rl 3rm 3rq ",
     "3rs 3tn 3uo 3v4 3vk 3xy 3y0 3y6 3y9 4fh 4fj 4g0 4g1 4gr 4gw 4iz 4j2 4jd 4jk 4k4 4kf 4l0 4lc 4lw ",
     "4m8 4ml 4mm 4mp 4mq 4ms 4n4 4ok 4om 4p5 4pj 4pk 4po 4pp 4rk 4u1 4u8 4vf 4vk 4xi 4xs 4yn 4yo 4z0 ",
     "4z4 4zd 500 50u 50w 511 51c 52k 52o 53e 54w 55o 55s 57j 57l 585 59j 59k 5a7 5a9 5ak 5an 5c0 5dg ",
     "5dh 5dw 5dx 5e5 5fk 5gq 5gs 5gw 5h6 5ie 5if 5iq 5j4 5kn 5l9 5lc 5lm 5mm 5mo 5mx 5n4 5ob 5od 5og ",
     "5pl 5pp 5pq 5pw 5px 5pz 5q2 5q3 5q8 5vk 5wn 5x1 5xc 652 654 65a 65c 66e 66g 66m 66o 66w 66x 66y ",
     "66z 670 671 672 673 67y 680 69h 69i 69p 69q 69r 69u 69x 69y 6a5 6a8 6ac 6ae 6ak 6ao 6b1 6b6 6b9 ",
     "6ba 6bh 6ep 6eq 6f3 6f4 6fk 6fx 6iq 6ir 6iv 6iw 6iy 6j8 6j9 6ja 6jd 6ji 6jo 6jp 6jq 6jr 6js 6jt ",
     "6ju 6jy 6jz 6ka 6kc 6kg 6kl 6kq 6ku 6kv 6lc 6mh 792 7ai 8ow 8v9 8vf 8vj 8vm 8vo 8w0 8x2 8x3 8x4 ",
     "8x9 8xa 8xc 8yw 8z3 8z4 8zk 907 90g 90n 90o 90v 90w 913 914 91b 91c 91j 91k 91r 91s 91z 920 927 ",
     "928 934 94f 94g 9hh 9hk 9i9 9ii 9ip 9iu 9iw 9j1 9j5 9lj 9lp 9ls 9lt 9ob 9oc 9og 9ol 9ps 9pt 9sf ",
     "9sw 9ts 9v4 9vk a9s fcw feo wi5 wk0 wla wlc wst wsw wtc wtm wto wu8 wvj wvo wvw wvz wz4 x07 x0g ",
     "x0i x3d x3f x57 x5c x5e x5f x5g x5h x5m x6a x6u x6v x7s x8g x9w xa8 xc4 xc5 xc6 xde xdk xdn xdo ",
     "xdp xds xe2 xez xf4 xg3 xgg xh9 xhc xir xis xj4 xjj xjk xk0 xkg xkq xkv xkw xmf xmo xn2 xnk xo7 ",
     "xoa xq7 xq8 xq9 xqa xqb xqz xr2 xr4 xrk xrm xrq xs1 xs7 xs9 xsf xsh xsn xsw xt3 xt4 xtb xtc xuj ",
     "xuk xuy xv4 xyj xz4 16lg 16ls 16mf 16mj 16nw 1d6o 1dgu 1dgw 1dju 1dkw 1dl3 1dlf 1dlk 1dlp 1dm1 ",
     "1dm2 1dmf 1dmg 1dml 1dmm 1dmn 1dmo 1dmq 1dmr 1dmt 1dmu 1dpu 1dqr 1e0u 1e1c 1e34 1e36 1e4o 1e5s ",
     "1e64 1e9c 1e9h 1e9i 1ed9 1ee9 1eez 1ef5 1efv 1eg6 1ein 1eiq 1eiw 1eiy 1ej4 1ej6 1ejc 1eje 1ejh ",
     "1ekg 1eks 1ekt 1elj 1elk 1em3 1em4 1em6 1em7 1emm 1emo 1en2 1eo0 1erf 1etc 1eut 1f28 1f31 1f34 ",
     "1f4h 1f5s 1f6o 1f71 1f7v 1f80 1f97 1f9c 1fa6 1fa8 1fb8 1fbc 1fbk 1fbl 1fbq 1fcw 1fha 1fhs 1fis ",
     "1fiw 1fjw 1fk0 1fl4 1flc 1fms 1fn4 1fnf 1fng 1fnv 1fnw 1fo3 1fo4 1fo6 1fo7 1foi 1foj 1foy 1foz ",
     "1fp6 1fp7 1fp9 1fr4 1fzr 1g00 1g0m 1g0w 1g14 1g1s 1g1y 1g1z 1g35 1g36 1g3f 1g5c 1g5i 1g5k 1g5l ",
     "1g5m 1g6u 1g6v 1g6x 1g70 1g71 1g73 1g7q 1g80 1g8n 1g8w 1g9r 1gbk 1gc3 1gc4 1gc6 1gcg 1gd2 1gdc ",
     "1ge2 1gg0 1ghk 1ghq 1ghs 1gjk 1gjo 1gjp 1gjr 1gjw 1gk4 1gk5 1gk8 1gk9 1gl2 1gm8 1gn1 1gn4 1gnx ",
     "1gow 1gp4 1gp5 1gpx 1gqo 1gs6 1gsg 1gt2 1gtc 1gtv 1gu8 1guq 1gxs 1gzt 1h1c 1h2r 1h34 1h4j 1h4w ",
     "1h60 1hfk 1hgq 1hgr 1hgt 1hgw 1hgy 1hj4 1hjx 1hk7 1hk8 1hkg 1hl2 1hm8 1hmq 1ho0 1hol 1hpc 1hpz ",
     "1hq8 1hs6 1htd 1hti 1hts 1hvd 1hvm 1hvn 1hw0 1hwp 1hxc 1hyr 1hz8 1hzc 1hzk 1i0j 1i0m 1i0n 1i0w ",
     "1i2o 1i2p 1i2t 1i32 1i34 1i3e 1i3f 1i3g 1i3h 1i4g 1i4y 1i4z 1i5x 1i5z 1i60 1i66 1i6a 1i80 1i87 ",
     "1i88 1i89 1i8a 1i8e 1i8f 1i8u 1i8v 1i95 1i9c 1iax 1ibk 1ibo 1ibp 1ibx 1ibz 1ic1 1ic3 1icp 1icq ",
     "1icx 1icy 1id0 1id1 1id6 1id9 1idh 1idj 1idl 1idn 1idp 1ids 1idt 1idz 1ie0 1ie5 1iec 1iio 1iki ",
     "1ikj 1ikm 1ikn 1ikr 1ilb 1ile 1im8 1io2 1io4 1io6 1io7 1io8 1itc 1iuu 1iuw 1iv3 1ivs 1ivy 1iww ",
     "1iyn 1iyo 1iyp 1iys 1iyt 1j0g 1j1y 1j20 1j21 1j40 1j4r 1j4t 1j57 1j5s 1j5z 1jb4 1jcp 1jfk 1jhc ",
     "1ji7 1jif 1jih 1jii 1jik 1jis 1jit 1jiv 1jiw 1jjq 1jjr 1jjt 1jjv 1jjx 1jjz 1jk3 1jmo 1jmw 1jmy ",
     "1jo8 1joa 1jog 1joh 1joi 1joj 1jol 1jpc 1jqr 1jqt 1jr3 1jrk 1jtk 1jtp 1jtq 1ju8 1jw9 1k3k 1k3t ",
     "1k3u 1k53 1k54 1k5b 1k5c 1k5d 1k6q 1k7k 1k7m 1k88 1k89 1k8n 1kao 1kav 1kaw 1kay 1kaz 1kc7 1kca ",
     "1kcb 1kcc 1kce 1kcf 1kci 1kcj 1kck 1kcm 1kco 1kdc 1kdi 1kdj 1kdl 1kdm 1ken 1keo 1keq 1ker 1kev ",
     "1kew 1kex 1ko0 1kon 1kow 1kpd 1kpe 1kqj 1kqm 1kqp 1kts 1ktt 1kw0 1llm 1log 1lrj 1ls0 1lxg 1nyo ",
     "1o1d 1o1s 1ovk 1ow1 1ow7 1s00 1sg7 1z40 1zjt 1zk0 1zkv 1zlc 1znj 1zo0 1zou 1zpc 1zqo 1zr4 1zr8 ",
     "1zs3 1zso 1zst 1ztc 20cg 20e8 20hs 20jv 20jz 20lk 20lr 20m8 20o0 20o2 20o3 20o4 20og 20oi 20ow ",
     "25fc 25fk 26dy 26f4 26fd 2dbk 2dbo 2dbp 2dbw 2dbx 2dbz 2dc0 2dk3 2dki 2dkj 2dlc 2dlf 2dlh 2dli ",
     "2dlw 2dm0 2dm8 2dx8 2fpc 2fsb 2fsg 2fst 2fsw 2ft5 2ftc 2ftm 2ftq 2ftr 2kg0 2kid 2kie 2kkd 2kke ",
     "2kkg 2kki 2kkj 2kkl 2kkn 2kkp 2kkt 2kku 2kl6 2kl7 2kl8 2kl9 2klg 2klh 2kna 2knb 2knf 2knh 2knp ",
     "2knq 2knx 2kny 2koq 2kor 2kov 2kow 2kp1 2kp2 2kp3 2kp6 2kpd 2kpe 2kyu 2kyw 2kzl 2kzm 2l0b 2l0c ",
     "2l17 2l18 2l1x 2l1y 2l2t 2l2u 2l3j 2l3k 2l4f 2l4g 2l55 2l56 2l61 2l62 2l6r 2l6s 2l70 2mm8 2mn3 ",
     "2mn9 2mnf 2mtc 2mtj 2mtk 2mu1 2mu3 2mua 2mub 2mud 2mue 2muj 2muo 2mwe 2mxb 2mxc 2n0g 2n1p 2n1z ",
     "2n26 2n2m 2n2n 2nbk 2nce 2ncw 2ne4 2nrk 2nsc 2odc 2odj 2odk 2odo 2odp 2odr 2ods 2oe7 2oe8 2ojp ",
     "2olc 2on8 2onb 2onc 2onf 2ong 2pkw 2pl0 2pl1 2pls 2plt 2plv 2plw 2plx 2plz 2pm0 2pm1 2pmb 2pmc ",
     "2pmg 2pmh 2pmi 2pmj 2pmk 2pmq 2pmr 2pmv 2pmw 2pmx 2pmy 2pmz 2pn0 2pn1 2pn4 2pn5 2pn7 2pn8 2pn9 ",
     "2pnb 2pnc 2pnd 2pne 2pnf 2png 2pnh 2pni 2pnj 2pnk 2pnl 2pnn 2pno 2pnp 2pnr 2pnv 2pnw 2po3 2po4 ",
     "2po8 2po9 2pod 2poe 2pof 2pog 2poq 2por 2pp8 2ppd 2ppg 2pph 2ppm 2ppn 2pq4 2q7k 2q8a 2q8g 2q96 ",
     "2q9c 2qa2 2t4w 3q3k 3q4g 3tbu 3tc0 3ti6 3ti8 3xya 3xyo 43q9 464g 46ji 47pc 4bij 4bio 4er4"]

def alphabeticSet : Array Nat := readBoundaries alphabeticTable

/-- The boundaries of Bidi Control. -/
def bidiControlTable : String :=
  String.join
    ["17g 17h 6by 6c0 6cq 6cv 6ee 6ei"]

def bidiControlSet : Array Nat := readBoundaries bidiControlTable

/-- The boundaries of Bidi Mirrored. -/
def bidiMirroredTable : String :=
  String.join
    ["14 16 1o 1p 1q 1r 2j 2k 2l 2m 3f 3g 3h 3i 4r 4s 57 58 30a 30e 4gr 4gt 6d5 6d7 6dh 6dj 6f1 6f3 ",
     "6fh 6fj 6kg 6kh 6pt 6px 6q0 6q6 6q9 6qa 6qd 6qf 6qi 6qm 6qn 6qr 6qs 6qt 6qu 6qv 6qz 6r8 6rd 6re ",
     "6rf 6rx 6s2 6s6 6sf 6sh 6si 6sj 6sk 6ss 6su 6tp 6tr 6tv 6u0 6u1 6ua 6uc 6ue 6ux 6v2 6v4 6vd 6vi ",
     "6vk 6vm 6vq 6we 6wg 6ww 6x4 6x8 6xs 6xu 6y1 6y3 7s8 7sm 7uo 7up 7ur 7uv 7uw 7uy 7uz 7v2 7v7 7vb ",
     "7vg 7vj 7vm 7w0 877 87t 87v 881 882 88g 88o 88p 88w 892 895 896 89a 89f 89g 89i 89k 89p 89t 89u ",
     "89v 89y 8a0 8a2 8ac 8ai 8ak 8am 8ay 8bh 8bi 8bm 8bo 8bp 8bq 8br 8bt 8bu 8bv 8bz 8c4 8c6 8cc 8cf ",
     "8d3 8d5 8dg 8di 8dm 8dq 8dr 8dt 8dv 8dx 8e1 8f8 8fa 8fi 8fj 8gn 8gs 8gt 8gu 8gv 8gy 8h3 8h8 8hb ",
     "8hf 8hg 8hj 8ho 8hp 8hq 8ou 8ov 936 93a 93d 93f 93g 93i 93w 93y 940 94a 95h 95p 9hk 9hu 9hw 9i4 ",
     "1e8p 1e8v 1e90 1e92 1edk 1edm 1ee4 1ee5 1ee6 1ee7 1eez 1ef0 1ef1 1ef2 1efv 1efw 1efx 1efy 1efz ",
     "1eg1 1eg2 1eg4 2l0b 2l0c 2l1x 2l1y 2l3j 2l3k 2l55 2l56 2l6r 2l6s"]

def bidiMirroredSet : Array Nat := readBoundaries bidiMirroredTable

/-- The boundaries of Case Ignorable. -/
def caseIgnorableTable : String :=
  String.join
    ["13 14 1a 1b 1m 1n 2m 2n 2o 2p 4o 4p 4t 4u 4v 4w 50 51 53 55 j4 og ok om oq or p0 p2 p3 p4 w3 wa ",
     "121 122 127 128 13l 14u 14v 14w 14x 14z 150 152 153 154 16c 16d 16o 16u 174 17f 17g 17h 18g 18h ",
     "18r 19c 19s 19t 1cm 1cu 1cv 1d5 1d6 1da 1e7 1e8 1e9 1ea 1f4 1fv 1ie 1ip 1kb 1km 1kq 1kr 1kt 1ku ",
     "1li 1m6 1nd 1ng 1oo 1op 1ow 1oy 1p4 1pc 1qh 1s3 1tm 1tn 1to 1tp 1tt 1u1 1u5 1u6 1u9 1ug 1uq 1us ",
     "1v5 1v6 1vl 1vm 1x8 1x9 1xd 1xh 1xp 1xq 1ya 1yc 1z2 1z3 1z5 1z7 20s 20t 20x 20z 213 215 217 21a ",
     "21d 21e 228 22a 22d 22e 22p 22r 24c 24d 24h 24m 24n 24p 24t 24u 25e 25g 262 268 269 26a 27w 27x ",
     "27z 280 281 285 28d 28e 28l 28n 28y 290 29u 29v 2bk 2bl 2bx 2by 2dc 2dd 2dg 2dh 2f0 2f1 2f2 2f5 ",
     "2fa 2fd 2fe 2fi 2fp 2fr 2g2 2g4 2gx 2gy 2ik 2il 2in 2io 2iu 2iv 2j0 2j2 2jm 2jo 2kg 2ki 2m3 2m5 ",
     "2m9 2md 2ml 2mm 2n6 2n8 2o1 2o2 2q2 2q3 2qa 2qd 2qe 2qf 2sx 2sy 2t0 2t7 2ti 2tr 2wh 2wi 2wk 2wt ",
     "2x2 2x3 2x4 2xb 2zc 2ze 305 306 307 308 309 30a 31t 327 328 32d 32e 32g 32l 32w 32x 33x 346 347 ",
     "371 375 376 37c 37d 37f 37h 37j 388 38a 38e 38h 38x 391 39e 39f 39h 39j 39p 39q 3a5 3a6 3cs 3ct ",
     "3tp 3ts 4k2 4k5 4ky 4l0 4lu 4lw 4mq 4ms 4ok 4om 4on 4ou 4p2 4p3 4p5 4pg 4pj 4pk 4pp 4pq 4qz 4r4 ",
     "4sj 4sk 4ud 4uf 4vd 4ve 4yo 4yr 4yv 4yx 4z6 4z7 4zd 4zg 55j 55l 55n 55o 57a 57b 57c 57j 57k 57l ",
     "57m 57n 57p 57x 583 58d 58f 58g 59j 59k 59s 5an 5c0 5c4 5dg 5dh 5di 5dn 5do 5dp 5du 5dv 5ez 5f8 ",
     "5fk 5fm 5gi 5gm 5go 5gq 5gr 5gu 5ie 5if 5ig 5ii 5il 5im 5in 5iq 5kc 5kk 5km 5ko 5mg 5mm 5ow 5oz ",
     "5p0 5pd 5pe 5pl 5pp 5pq 5pw 5px 5q0 5q2 5rg 5t7 5tk 5tl 5uj 5xc 69p 69q 69r 69u 6a5 6a8 6al 6ao ",
     "6b1 6b4 6bh 6bj 6bv 6c0 6c8 6ca 6ck 6cl 6cn 6co 6cq 6cv 6e8 6ed 6ee 6eo 6ep 6eq 6f3 6f4 6fk 6fx ",
     "6hc 6i9 8sc 8se 8vj 8vm 8z3 8z4 8zj 8zk 928 934 94f 94g 9hh 9hi 9ii 9im 9ip 9iu 9iz 9j0 9ll 9lr ",
     "9oc 9of vmd vme wl4 wla wss wst wvj wvn wvo wvy wvz ww0 wws www wz4 wz6 wzk x0i x2o x2p x3c x3f ",
     "x6a x6d x6g x6i x6q x6r x6u x6v x6z x70 x7p x7r x7w x7x xc4 xc6 xcw xde xdr xds xeu xf2 xfr xg2 ",
     "xhc xhf xir xis xiu xiy xj0 xj2 xjj xjk xk5 xk7 xm1 xm7 xm9 xmb xmd xmf xmr xms xn0 xn1 xo0 xo1 ",
     "xoc xod xps xpt xpu xpx xpz xq1 xq6 xq8 xq9 xqa xr1 xr2 xrg xri xrn xrp xrq xrr xuj xuo xux xv0 ",
     "xyd xye xyg xyh xyl xym 1dlq 1dlr 1dpu 1dqb 1e68 1e6o 1e6r 1e6s 1e74 1e7k 1e8i 1e8j 1e8l 1e8m ",
     "1edb 1edc 1edj 1edk 1edq 1edr 1ee2 1ee3 1ef2 1ef3 1ef4 1ef5 1egg 1egh 1ehq 1ehs 1ejn 1ejo 1ek9 ",
     "1ekc 1eyl 1eym 1f4w 1f4x 1f92 1f97 1g1s 1g1y 1g1z 1g35 1g36 1g3f 1gjl 1gjo 1gjp 1gjr 1gjw 1gk0 ",
     "1gl4 1gl7 1glb 1glc 1gpx 1gpz 1h5w 1h60 1hgr 1hgt 1hj1 1hj4 1hl2 1hld 1hmq 1hmu 1hq9 1hqa 1hrs ",
     "1hs7 1htc 1htd 1htf 1hth 1htr 1htu 1hv7 1hvb 1hvd 1hvf 1hvh 1hvi 1hvm 1hvn 1hvx 1hvy 1hxc 1hxf ",
     "1hyf 1hyk 1hyl 1hyt 1i0j 1i0k 1i0w 1i0y 1i2e 1i2n 1i2x 1i31 1i33 1i34 1i5r 1i5u 1i5w 1i5x 1i5y ",
     "1i60 1i66 1i67 1i69 1i6a 1ian 1iao 1iar 1iaz 1ibk 1ibm 1id7 1id9 1idc 1idd 1iee 1iel 1ieo 1iet ",
     "1ik8 1ikg 1iki 1ikl 1ikm 1ikn 1ila 1ilb 1inn 1int 1inu 1inv 1inz 1io1 1io2 1io4 1iuq 1iuu 1iv0 ",
     "1iv2 1iv3 1iv5 1ivw 1ivy 1iyb 1iyj 1iyl 1iym 1iyn 1iyp 1j1n 1j1o 1j1p 1j1q 1j1s 1j1y 1j1z 1j20 ",
     "1j4t 1j4w 1j4y 1j52 1j53 1j58 1jcf 1jco 1jcp 1jcr 1jjv 1jjx 1jjy 1jjz 1jk3 1jk4 1jo4 1jo8 1joa ",
     "1joc 1jog 1joh 1jpd 1jpn 1jqr 1jqx 1jqz 1jr3 1jrb 1jrc 1jrl 1jrr 1jrt 1jrw 1jt6 1jtj 1jtk 1jtm ",
     "1k4w 1k53 1k54 1k5a 1k5b 1k5c 1k7m 1k88 1k8a 1k8h 1k8i 1k8k 1k8l 1k8n 1kc1 1kc7 1kca 1kcb 1kcc ",
     "1kce 1kcf 1kcm 1kcn 1kco 1keo 1keq 1ket 1keu 1kev 1kew 1koj 1kol 1kow 1koy 1kqe 1kqj 1kqo 1kqp ",
     "1kqq 1kqr 1ovk 1ow1 1ow7 1owm 1zow 1zp1 1zqo 1zqv 1zr4 1zr8 20jz 20k0 20lr 20m8 20o0 20o2 20o3 ",
     "20o5 2dbk 2dbo 2dbp 2dbw 2dbx 2dbz 2ftp 2ftr 2fts 2ftw 2jgg 2jhq 2jhs 2jif 2jxj 2jxm 2jxv 2jyb ",
     "2jyd 2jyk 2jze 2jzi 2k3m 2k3p 2lmo 2lo7 2lob 2lpp 2lpx 2lpy 2lqc 2lqd 2lqz 2lr4 2lr5 2lrk 2mtc ",
     "2mtj 2mtk 2mu1 2mu3 2mua 2mub 2mud 2mue 2muj 2muo 2mwe 2mxb 2mxc 2n1s 2n26 2nce 2ncf 2ne4 2ne8 ",
     "2nsb 2nsg 2ok0 2ok7 2on8 2ong 2qrf 2qrk jny9 jnya jnz4 jo1s jo5c joc0"]

def caseIgnorableSet : Array Nat := readBoundaries caseIgnorableTable

/-- The boundaries of Cased. -/
def casedTable : String :=
  String.join
    ["1t 2j 2p 3f 4q 4r 51 52 56 57 5c 5z 60 6v 6w cb cc cg ck ic id jd jk jm kg kl n9 na og ok om oo ",
     "oq ou ov ow p2 p3 p4 p7 p8 p9 pa pu pv s6 s7 w2 wa 10w 10x 11z 128 13d 3a8 3ba 3bb 3bc 3bh 3bi ",
     "3bk 3cr 3cs 3cw 3vk 3xy 3y0 3y6 5mo 5mx 5n4 5ob 5od 5og 5q8 5vk 5xc 652 654 65a 65c 66e 66g 66m ",
     "66o 66w 66x 66y 66z 670 671 672 673 67y 680 69h 69i 69p 69q 69r 69u 69x 69y 6a5 6a8 6ac 6ae 6ak ",
     "6ao 6b1 6b6 6b9 6ba 6bh 6ep 6eq 6f3 6f4 6fk 6fx 6iq 6ir 6iv 6iw 6iy 6j8 6j9 6ja 6jd 6ji 6jo 6jp ",
     "6jq 6jr 6js 6jt 6ju 6jy 6jz 6k5 6k9 6ka 6kc 6kg 6kl 6kq 6ku 6kv 6lc 6m8 6mb 6md 792 7ai 8ow 8v9 ",
     "8vf 8vj 8vm 8vo 8w0 8x2 8x3 8x4 8x9 8xa wu8 wvi ww0 wwu x0i x3c x3f x3j x3k x57 x5c x5e x5f x5g ",
     "x5h x5m x6a x6f x6g x6j xtc xuj xuk xuy xv4 xxc 1dkw 1dl3 1dlf 1dlk 1ee9 1eez 1ef5 1efv 1fcw ",
     "1ff4 1fhs 1fis 1fiw 1fjw 1fn4 1fnf 1fng 1fnv 1fnw 1fo3 1fo4 1fo6 1fo7 1foi 1foj 1foy 1foz 1fp6 ",
     "1fp7 1fp9 1g1s 1g1t 1g1v 1g1y 1g1z 1g35 1g36 1g3f 1h1c 1h2r 1h34 1h4j 1jfk 1jhc 20cg 20e8 2kg0 ",
     "2kid 2kie 2kkd 2kke 2kkg 2kki 2kkj 2kkl 2kkn 2kkp 2kkt 2kku 2kl6 2kl7 2kl8 2kl9 2klg 2klh 2kna ",
     "2knb 2knf 2knh 2knp 2knq 2knx 2kny 2koq 2kor 2kov 2kow 2kp1 2kp2 2kp3 2kp6 2kpd 2kpe 2kyu 2kyw ",
     "2kzl 2kzm 2l0b 2l0c 2l17 2l18 2l1x 2l1y 2l2t 2l2u 2l3j 2l3k 2l4f 2l4g 2l55 2l56 2l61 2l62 2l6r ",
     "2l6s 2l70 2mm8 2mmi 2mmj 2mn3 2mn9 2mnf 2muo 2mwe 2olc 2on8 2q7k 2q8a 2q8g 2q96 2q9c 2qa2"]

def casedSet : Array Nat := readBoundaries casedTable

/-- The boundaries of Changes When Casefolded. -/
def changesWhenCasefoldedTable : String :=
  String.join
    ["1t 2j 51 52 5c 5z 60 68 74 75 76 77 78 79 7a 7b 7c 7d 7e 7f 7g 7h 7i 7j 7k 7l 7m 7n 7o 7p 7q 7r ",
     "7s 7t 7u 7v 7w 7x 7y 7z 80 81 82 83 84 85 86 87 88 89 8a 8b 8c 8d 8e 8f 8g 8h 8i 8j 8k 8l 8m 8n ",
     "8p 8q 8r 8s 8t 8u 8v 8w 8x 8y 8z 90 91 92 93 94 95 97 98 99 9a 9b 9c 9d 9e 9f 9g 9h 9i 9j 9k 9l ",
     "9m 9n 9o 9p 9q 9r 9s 9t 9u 9v 9w 9x 9y 9z a0 a1 a2 a3 a4 a5 a6 a7 a8 a9 aa ab ac ad ae af ag ai ",
     "aj ak al am an ao ap ar as at au aw ax b0 b2 b6 b7 b9 ba bd bg bi bj bl bm bn bo bp bq bs bt bu ",
     "bw bx by c0 c1 c4 c5 c6 c7 c9 cc cd ck cm cn cp cq cs ct cu cv cw cx cy cz d0 d1 d2 d3 d4 d5 d6 ",
     "d7 d8 da db dc dd de df dg dh di dj dk dl dm dn do dp dq dr dt dv dw dx dy e1 e2 e3 e4 e5 e6 e7 ",
     "e8 e9 ea eb ec ed ee ef eg eh ei ej ek el em en eo ep eq er es et eu ev ew ex ey ez f0 f1 f2 f3 ",
     "f4 f5 f6 f7 f8 f9 fa fb fc fd fe ff fg fh fi fj fk fl fm fn fu fw fx fz g1 g2 g3 g7 g8 g9 ga gb ",
     "gc gd ge gf n9 na og oh oi oj om on ov ow p2 p3 p4 p7 p8 p9 pa pc pd pu pv q4 qq qr r3 r6 r9 rb ",
     "rc rd re rf rg rh ri rj rk rl rm rn ro rp rq rr rs rt ru rv rw rx ry rz s0 s2 s4 s6 s7 s8 s9 sb ",
     "sd ts v4 v5 v6 v7 v8 v9 va vb vc vd ve vf vg vh vi vj vk vl vm vn vo vp vq vr vs vt vu vv vw vx ",
     "vy vz w0 w1 wa wb wc wd we wf wg wh wi wj wk wl wm wn wo wp wq wr ws wt wu wv ww wx wy wz x0 x1 ",
     "x2 x3 x4 x5 x6 x7 x8 x9 xa xb xc xd xe xf xg xh xi xj xk xl xm xn xo xp xq xr xs xu xv xw xx xy ",
     "xz y0 y1 y2 y3 y4 y5 y6 y8 y9 ya yb yc yd ye yf yg yh yi yj yk yl ym yn yo yp yq yr ys yt yu yv ",
     "yw yx yy yz z0 z1 z2 z3 z4 z5 z6 z7 z8 z9 za zb zc zd ze zf zg zh zi zj zk zl zm zn zo zp zq zr ",
     "zs zt zu zv zw zx zy zz 100 101 102 103 104 105 106 107 108 109 10a 10b 10c 10d 10e 10f 10g 10h ",
     "10i 10j 10k 10l 10m 10n 10o 10p 10q 10r 10s 10t 10u 10v 10x 11z 13b 13c 3a8 3ba 3bb 3bc 3bh 3bi ",
     "3y0 3y6 5mo 5mx 5n4 5ob 5od 5og 5xc 5xd 5xe 5xf 5xg 5xh 5xi 5xj 5xk 5xl 5xm 5xn 5xo 5xp 5xq 5xr ",
     "5xs 5xt 5xu 5xv 5xw 5xx 5xy 5xz 5y0 5y1 5y2 5y3 5y4 5y5 5y6 5y7 5y8 5y9 5ya 5yb 5yc 5yd 5ye 5yf ",
     "5yg 5yh 5yi 5yj 5yk 5yl 5ym 5yn 5yo 5yp 5yq 5yr 5ys 5yt 5yu 5yv 5yw 5yx 5yy 5yz 5z0 5z1 5z2 5z3 ",
     "5z4 5z5 5z6 5z7 5z8 5z9 5za 5zb 5zc 5zd 5ze 5zf 5zg 5zh 5zi 5zj 5zk 5zl 5zm 5zn 5zo 5zp 5zq 5zr ",
     "5zs 5zt 5zu 5zv 5zw 5zx 5zy 5zz 600 601 602 603 604 605 606 607 608 609 60a 60b 60c 60d 60e 60f ",
     "60g 60h 60i 60j 60k 60l 60m 60n 60o 60p 60q 60r 60s 60t 60u 60v 60w 60x 60y 60z 610 611 612 613 ",
     "614 615 616 617 618 619 61a 61b 61c 61d 61e 61f 61g 61h 61m 61o 61q 61r 61s 61t 61u 61v 61w 61x ",
     "61y 61z 620 621 622 623 624 625 626 627 628 629 62a 62b 62c 62d 62e 62f 62g 62h 62i 62j 62k 62l ",
     "62m 62n 62o 62p 62q 62r 62s 62t 62u 62v 62w 62x 62y 62z 630 631 632 633 634 635 636 637 638 639 ",
     "63a 63b 63c 63d 63e 63f 63g 63h 63i 63j 63k 63l 63m 63n 63o 63p 63q 63r 63s 63t 63u 63v 63w 63x ",
     "63y 63z 640 641 642 643 644 645 646 647 648 649 64a 64b 64c 64d 64e 64f 64o 64w 654 65a 65k 65s ",
     "660 668 66g 66m 66x 66y 66z 670 671 672 673 674 67c 67k 680 69c 69e 69h 69j 69p 69u 69x 69z 6a5 ",
     "6ag 6ak 6aw 6b1 6b6 6b9 6bb 6bh 6jq 6jr 6ju 6jw 6k2 6k3 6lc 6ls 6mb 6mc 792 79s 8ow 8q8 8rk 8rl ",
     "8rm 8rp 8rr 8rs 8rt 8ru 8rv 8rw 8rx 8s1 8s2 8s3 8s5 8s6 8se 8sh 8si 8sj 8sk 8sl 8sm 8sn 8so 8sp ",
     "8sq 8sr 8ss 8st 8su 8sv 8sw 8sx 8sy 8sz 8t0 8t1 8t2 8t3 8t4 8t5 8t6 8t7 8t8 8t9 8ta 8tb 8tc 8td ",
     "8te 8tf 8tg 8th 8ti 8tj 8tk 8tl 8tm 8tn 8to 8tp 8tq 8tr 8ts 8tt 8tu 8tv 8tw 8tx 8ty 8tz 8u0 8u1 ",
     "8u2 8u3 8u4 8u5 8u6 8u7 8u8 8u9 8ua 8ub 8uc 8ud 8ue 8uf 8ug 8uh 8ui 8uj 8uk 8ul 8um 8un 8uo 8up ",
     "8uq 8ur 8us 8ut 8uu 8uv 8uw 8ux 8uy 8uz 8v0 8v1 8v2 8v3 8v4 8v5 8v6 8v7 8vf 8vg 8vh 8vi 8vm 8vn ",
     "wu8 wu9 wua wub wuc wud wue wuf wug wuh wui wuj wuk wul wum wun wuo wup wuq wur wus wut wuu wuv ",
     "wuw wux wuy wuz wv0 wv1 wv2 wv3 wv4 wv5 wv6 wv7 wv8 wv9 wva wvb wvc wvd wve wvf wvg wvh ww0 ww1 ",
     "ww2 ww3 ww4 ww5 ww6 ww7 ww8 ww9 wwa wwb wwc wwd wwe wwf wwg wwh wwi wwj wwk wwl wwm wwn wwo wwp ",
     "wwq wwr x0i x0j x0k x0l x0m x0n x0o x0p x0q x0r x0s x0t x0u x0v x0y x0z x10 x11 x12 x13 x14 x15 ",
     "x16 x17 x18 x19 x1a x1b x1c x1d x1e x1f x1g x1h x1i x1j x1k x1l x1m x1n x1o x1p x1q x1r x1s x1t ",
     "x1u x1v x1w x1x x1y x1z x20 x21 x22 x23 x24 x25 x26 x27 x28 x29 x2a x2b x2c x2d x2e x2f x2g x2h ",
     "x2i x2j x2k x2l x2m x2n x2x x2y x2z x30 x31 x33 x34 x35 x36 x37 x38 x39 x3a x3b x3f x3g x3h x3i ",
     "x3k x3l x3m x3n x3q x3r x3s x3t x3u x3v x3w x3x x3y x3z x40 x41 x42 x43 x44 x45 x46 x47 x48 x49 ",
     "x4a x4f x4g x4l x4m x4n x4o x4p x4q x4r x4s x4t x4u x4v x4w x4x x4y x4z x50 x54 x55 x56 x5c x5d ",
     "x5i x5j x5k x5l x6d x6e xv4 xxc 1dkw 1dl3 1dlf 1dlk 1ee9 1eez 1fcw 1fe0 1fhs 1fis 1fn4 1fnf 1fng ",
     "1fnv 1fnw 1fo3 1fo4 1fo6 1h1c 1h2r 1jfk 1jgg 20cg 20dc 2olc 2oma"]

def changesWhenCasefoldedSet : Array Nat := readBoundaries changesWhenCasefoldedTable

/-- The boundaries of Changes When Casemapped. -/
def changesWhenCasemappedTable : String :=
  String.join
    ["1t 2j 2p 3f 51 52 5c 5z 60 6v 6w 8o 8p b1 b2 bf bg bu bw ca cc ce cf cg ck f5 f6 fo fu gl gm go ",
     "gp gq gr gt gw gy gz h0 h1 h3 h4 h9 hb hc hd hf hh hi hp hq hs ht hu hw hz i5 ia ib il in n9 na ",
     "og ok om oo or ou ov ow p2 p3 p4 p7 p8 p9 pa pu pv r6 r9 s6 s7 sc sd w2 wa 10w 10x 11z 129 13c ",
     "3a8 3ba 3bb 3bc 3bh 3bi 3bk 3cr 3ct 3cw 3vk 3xy 3y0 3y6 5mo 5mx 5n4 5ob 5od 5og 5tl 5tm 5tp 5tq ",
     "5u6 5u7 5xc 61o 61q 61r 61s 652 654 65a 65c 66e 66g 66m 66o 66w 66x 66y 66z 670 671 672 673 67y ",
     "680 69h 69i 69p 69q 69r 69u 69x 69y 6a5 6a8 6ac 6ae 6ak 6ao 6b1 6b6 6b9 6ba 6bh 6jq 6jr 6ju 6jw ",
     "6k2 6k3 6ku 6kv 6lc 6m8 6mb 6md 792 7ai 8ow 8s1 8s2 8s4 8s5 8s7 8se 8v8 8vf 8vj 8vm 8vo 8w0 8x2 ",
     "8x3 8x4 8x9 8xa wu8 wvi ww0 wws x0i x0w x0y x2o x2x x3c x3f x3i x3k x3p x3q x4f x4g x57 x5c x5e ",
     "x5i x5m x6d x6f xub xuc xv4 xxc 1dkw 1dl3 1dlf 1dlk 1ee9 1eez 1ef5 1efv 1fcw 1ff4 1fhs 1fis 1fiw ",
     "1fjw 1fn4 1fnf 1fng 1fnv 1fnw 1fo3 1fo4 1fo6 1fo7 1foi 1foj 1foy 1foz 1fp6 1fp7 1fp9 1h1c 1h2r ",
     "1h34 1h4j 1jfk 1jhc 20cg 20e8 2olc 2on8"]

def changesWhenCasemappedSet : Array Nat := readBoundaries changesWhenCasemappedTable

/-- The boundaries of Changes When Lowercased. -/
def changesWhenLowercasedTable : String :=
  String.join
    ["1t 2j 5c 5z 60 67 74 75 76 77 78 79 7a 7b 7c 7d 7e 7f 7g 7h 7i 7j 7k 7l 7m 7n 7o 7p 7q 7r 7s 7t ",
     "7u 7v 7w 7x 7y 7z 80 81 82 83 84 85 86 87 88 89 8a 8b 8c 8d 8e 8f 8g 8h 8i 8j 8k 8l 8m 8n 8p 8q ",
     "8r 8s 8t 8u 8v 8w 8x 8y 8z 90 91 92 93 94 96 97 98 99 9a 9b 9c 9d 9e 9f 9g 9h 9i 9j 9k 9l 9m 9n ",
     "9o 9p 9q 9r 9s 9t 9u 9v 9w 9x 9y 9z a0 a1 a2 a3 a4 a5 a6 a7 a8 a9 aa ab ac ad ae af ag ai aj ak ",
     "al am ap ar as at au aw ax b0 b2 b6 b7 b9 ba bd bg bi bj bl bm bn bo bp bq bs bt bu bw bx by c0 ",
     "c1 c4 c5 c6 c7 c9 cc cd ck cm cn cp cq cs ct cu cv cw cx cy cz d0 d1 d2 d3 d4 d5 d6 d7 d8 da db ",
     "dc dd de df dg dh di dj dk dl dm dn do dp dq dr dt dv dw dx dy e1 e2 e3 e4 e5 e6 e7 e8 e9 ea eb ",
     "ec ed ee ef eg eh ei ej ek el em en eo ep eq er es et eu ev ew ex ey ez f0 f1 f2 f3 f4 f5 f6 f7 ",
     "f8 f9 fa fb fc fd fe ff fg fh fi fj fk fl fm fn fu fw fx fz g1 g2 g3 g7 g8 g9 ga gb gc gd ge gf ",
     "og oh oi oj om on ov ow p2 p3 p4 p7 p8 p9 pa pc pd pu pv q4 r3 r4 rc rd re rf rg rh ri rj rk rl ",
     "rm rn ro rp rq rr rs rt ru rv rw rx ry rz s4 s5 s7 s8 s9 sb sd ts v4 v5 v6 v7 v8 v9 va vb vc vd ",
     "ve vf vg vh vi vj vk vl vm vn vo vp vq vr vs vt vu vv vw vx vy vz w0 w1 wa wb wc wd we wf wg wh ",
     "wi wj wk wl wm wn wo wp wq wr ws wt wu wv ww wx wy wz x0 x1 x2 x3 x4 x5 x6 x7 x8 x9 xa xb xc xd ",
     "xe xf xg xh xi xj xk xl xm xn xo xp xq xr xs xu xv xw xx xy xz y0 y1 y2 y3 y4 y5 y6 y8 y9 ya yb ",
     "yc yd ye yf yg yh yi yj yk yl ym yn yo yp yq yr ys yt yu yv yw yx yy yz z0 z1 z2 z3 z4 z5 z6 z7 ",
     "z8 z9 za zb zc zd ze zf zg zh zi zj zk zl zm zn zo zp zq zr zs zt zu zv zw zx zy zz 100 101 102 ",
     "103 104 105 106 107 108 109 10a 10b 10c 10d 10e 10f 10g 10h 10i 10j 10k 10l 10m 10n 10o 10p 10q ",
     "10r 10s 10t 10u 10v 10x 11z 3a8 3ba 3bb 3bc 3bh 3bi 3vk 3xy 5n4 5ob 5od 5og 5xc 5xd 5xe 5xf 5xg ",
     "5xh 5xi 5xj 5xk 5xl 5xm 5xn 5xo 5xp 5xq 5xr 5xs 5xt 5xu 5xv 5xw 5xx 5xy 5xz 5y0 5y1 5y2 5y3 5y4 ",
     "5y5 5y6 5y7 5y8 5y9 5ya 5yb 5yc 5yd 5ye 5yf 5yg 5yh 5yi 5yj 5yk 5yl 5ym 5yn 5yo 5yp 5yq 5yr 5ys ",
     "5yt 5yu 5yv 5yw 5yx 5yy 5yz 5z0 5z1 5z2 5z3 5z4 5z5 5z6 5z7 5z8 5z9 5za 5zb 5zc 5zd 5ze 5zf 5zg ",
     "5zh 5zi 5zj 5zk 5zl 5zm 5zn 5zo 5zp 5zq 5zr 5zs 5zt 5zu 5zv 5zw 5zx 5zy 5zz 600 601 602 603 604 ",
     "605 606 607 608 609 60a 60b 60c 60d 60e 60f 60g 60h 60i 60j 60k 60l 60m 60n 60o 60p 60q 60r 60s ",
     "60t 60u 60v 60w 60x 60y 60z 610 611 612 613 614 615 616 617 618 619 61a 61b 61c 61d 61e 61f 61g ",
     "61h 61q 61r 61s 61t 61u 61v 61w 61x 61y 61z 620 621 622 623 624 625 626 627 628 629 62a 62b 62c ",
     "62d 62e 62f 62g 62h 62i 62j 62k 62l 62m 62n 62o 62p 62q 62r 62s 62t 62u 62v 62w 62x 62y 62z 630 ",
     "631 632 633 634 635 636 637 638 639 63a 63b 63c 63d 63e 63f 63g 63h 63i 63j 63k 63l 63m 63n 63o ",
     "63p 63q 63r 63s 63t 63u 63v 63w 63x 63y 63z 640 641 642 643 644 645 646 647 648 649 64a 64b 64c ",
     "64d 64e 64f 64o 64w 654 65a 65k 65s 660 668 66g 66m 66x 66y 66z 670 671 672 673 674 67c 67k 688 ",
     "68g 68o 68w 694 69c 69k 69p 6a0 6a5 6ag 6ak 6aw 6b1 6bc 6bh 6jq 6jr 6ju 6jw 6k2 6k3 6lc 6ls 6mb ",
     "6mc 792 79s 8ow 8q8 8rk 8rl 8rm 8rp 8rr 8rs 8rt 8ru 8rv 8rw 8rx 8s1 8s2 8s3 8s5 8s6 8se 8sh 8si ",
     "8sj 8sk 8sl 8sm 8sn 8so 8sp 8sq 8sr 8ss 8st 8su 8sv 8sw 8sx 8sy 8sz 8t0 8t1 8t2 8t3 8t4 8t5 8t6 ",
     "8t7 8t8 8t9 8ta 8tb 8tc 8td 8te 8tf 8tg 8th 8ti 8tj 8tk 8tl 8tm 8tn 8to 8tp 8tq 8tr 8ts 8tt 8tu ",
     "8tv 8tw 8tx 8ty 8tz 8u0 8u1 8u2 8u3 8u4 8u5 8u6 8u7 8u8 8u9 8ua 8ub 8uc 8ud 8ue 8uf 8ug 8uh 8ui ",
     "8uj 8uk 8ul 8um 8un 8uo 8up 8uq 8ur 8us 8ut 8uu 8uv 8uw 8ux 8uy 8uz 8v0 8v1 8v2 8v3 8v4 8v5 8v6 ",
     "8v7 8vf 8vg 8vh 8vi 8vm 8vn wu8 wu9 wua wub wuc wud wue wuf wug wuh wui wuj wuk wul wum wun wuo ",
     "wup wuq wur wus wut wuu wuv wuw wux wuy wuz wv0 wv1 wv2 wv3 wv4 wv5 wv6 wv7 wv8 wv9 wva wvb wvc ",
     "wvd wve wvf wvg wvh ww0 ww1 ww2 ww3 ww4 ww5 ww6 ww7 ww8 ww9 wwa wwb wwc wwd wwe wwf wwg wwh wwi ",
     "wwj wwk wwl wwm wwn wwo wwp wwq wwr x0i x0j x0k x0l x0m x0n x0o x0p x0q x0r x0s x0t x0u x0v x0y ",
     "x0z x10 x11 x12 x13 x14 x15 x16 x17 x18 x19 x1a x1b x1c x1d x1e x1f x1g x1h x1i x1j x1k x1l x1m ",
     "x1n x1o x1p x1q x1r x1s x1t x1u x1v x1w x1x x1y x1z x20 x21 x22 x23 x24 x25 x26 x27 x28 x29 x2a ",
     "x2b x2c x2d x2e x2f x2g x2h x2i x2j x2k x2l x2m x2n x2x x2y x2z x30 x31 x33 x34 x35 x36 x37 x38 ",
     "x39 x3a x3b x3f x3g x3h x3i x3k x3l x3m x3n x3q x3r x3s x3t x3u x3v x3w x3x x3y x3z x40 x41 x42 ",
     "x43 x44 x45 x46 x47 x48 x49 x4a x4f x4g x4l x4m x4n x4o x4p x4q x4r x4s x4t x4u x4v x4w x4x x4y ",
     "x4z x50 x54 x55 x56 x5c x5d x5i x5j x5k x5l x6d x6e 1ee9 1eez 1fcw 1fe0 1fhs 1fis 1fn4 1fnf 1fng ",
     "1fnv 1fnw 1fo3 1fo4 1fo6 1h1c 1h2r 1jfk 1jgg 20cg 20dc 2olc 2oma"]

def changesWhenLowercasedSet : Array Nat := readBoundaries changesWhenLowercasedTable

/-- The boundaries of Changes When Titlecased. -/
def changesWhenTitlecasedTable : String :=
  String.join
    ["2p 3f 51 52 67 6v 6w 74 75 76 77 78 79 7a 7b 7c 7d 7e 7f 7g 7h 7i 7j 7k 7l 7m 7n 7o 7p 7q 7r 7s ",
     "7t 7u 7v 7w 7x 7y 7z 80 81 82 83 84 85 86 87 88 89 8a 8b 8c 8d 8e 8f 8g 8h 8i 8j 8k 8l 8m 8n 8o ",
     "8q 8r 8s 8t 8u 8v 8w 8x 8y 8z 90 91 92 93 94 96 97 98 99 9a 9b 9c 9d 9e 9f 9g 9h 9i 9j 9k 9l 9m ",
     "9n 9o 9p 9q 9r 9s 9t 9u 9v 9w 9x 9y 9z a0 a1 a2 a3 a4 a5 a6 a7 a8 a9 aa ab ac ad ae af ag ai aj ",
     "ak al am ap ar as at au aw ax b0 b1 b6 b7 b9 ba bd bf bi bj bl bm bn bo bp bq bs bt bx by c0 c1 ",
     "c4 c5 c6 c7 c9 ca cd ce cf cg ck cl cm co cp cr cs ct cu cv cw cx cy cz d0 d1 d2 d3 d4 d5 d6 d7 ",
     "d8 da db dc dd de df dg dh di dj dk dl dm dn do dp dq dr du dv dw dx dy e1 e2 e3 e4 e5 e6 e7 e8 ",
     "e9 ea eb ec ed ee ef eg eh ei ej ek el em en eo ep eq er es et eu ev ew ex ey ez f0 f1 f2 f3 f4 ",
     "f7 f8 f9 fa fb fc fd fe ff fg fh fi fj fk fl fm fn fo fw fx fz g1 g2 g3 g7 g8 g9 ga gb gc gd ge ",
     "gf gl gm go gp gq gr gt gw gy gz h0 h1 h3 h4 h9 hb hc hd hf hh hi hp hq hs ht hu hw hz i5 ia ib ",
     "il in n9 na oh oi oj ok on oo or ou pc pd q4 r3 r4 r6 r9 rc rd re rf rg rh ri rj rk rl rm rn ro ",
     "rp rq rr rs rt ru rv rw rx ry rz s4 s5 s6 s8 s9 sb sc ts v4 v5 v6 v7 v8 v9 va vb vc vd ve vf vg ",
     "vh vi vj vk vl vm vn vo vp vq vr vs vt vu vv vw vx vy vz w0 w1 w2 wb wc wd we wf wg wh wi wj wk ",
     "wl wm wn wo wp wq wr ws wt wu wv ww wx wy wz x0 x1 x2 x3 x4 x5 x6 x7 x8 x9 xa xb xc xd xe xf xg ",
     "xh xi xj xk xl xm xn xo xp xq xr xs xu xv xw xx xy xz y0 y1 y2 y3 y4 y5 y6 y8 y9 ya yb yc yd ye ",
     "yf yg yh yi yj yk yl ym yn yo yp yq yr ys yt yu yv yw yx yy yz z0 z1 z2 z3 z4 z5 z6 z7 z8 z9 za ",
     "zb zc zd ze zf zg zh zi zj zk zl zm zn zo zp zq zr zs zt zu zv zw zx zy zz 100 101 102 103 104 ",
     "105 106 107 108 109 10a 10b 10c 10d 10e 10f 10g 10h 10i 10j 10k 10l 10m 10n 10o 10p 10q 10r 10s ",
     "10t 10u 10v 10w 129 13c 3y0 3y6 5mo 5mx 5tl 5tm 5tp 5tq 5u6 5u7 5xd 5xe 5xf 5xg 5xh 5xi 5xj 5xk ",
     "5xl 5xm 5xn 5xo 5xp 5xq 5xr 5xs 5xt 5xu 5xv 5xw 5xx 5xy 5xz 5y0 5y1 5y2 5y3 5y4 5y5 5y6 5y7 5y8 ",
     "5y9 5ya 5yb 5yc 5yd 5ye 5yf 5yg 5yh 5yi 5yj 5yk 5yl 5ym 5yn 5yo 5yp 5yq 5yr 5ys 5yt 5yu 5yv 5yw ",
     "5yx 5yy 5yz 5z0 5z1 5z2 5z3 5z4 5z5 5z6 5z7 5z8 5z9 5za 5zb 5zc 5zd 5ze 5zf 5zg 5zh 5zi 5zj 5zk ",
     "5zl 5zm 5zn 5zo 5zp 5zq 5zr 5zs 5zt 5zu 5zv 5zw 5zx 5zy 5zz 600 601 602 603 604 605 606 607 608 ",
     "609 60a 60b 60c 60d 60e 60f 60g 60h 60i 60j 60k 60l 60m 60n 60o 60p 60q 60r 60s 60t 60u 60v 60w ",
     "60x 60y 60z 610 611 612 613 614 615 616 617 618 619 61a 61b 61c 61d 61e 61f 61g 61h 61o 61t 61u ",
     "61v 61w 61x 61y 61z 620 621 622 623 624 625 626 627 628 629 62a 62b 62c 62d 62e 62f 62g 62h 62i ",
     "62j 62k 62l 62m 62n 62o 62p 62q 62r 62s 62t 62u 62v 62w 62x 62y 62z 630 631 632 633 634 635 636 ",
     "637 638 639 63a 63b 63c 63d 63e 63f 63g 63h 63i 63j 63k 63l 63m 63n 63o 63p 63q 63r 63s 63t 63u ",
     "63v 63w 63x 63y 63z 640 641 642 643 644 645 646 647 648 649 64a 64b 64c 64d 64e 64f 64o 64w 652 ",
     "65c 65k 65s 660 668 66e 66o 66w 674 67c 67k 67y 680 688 68g 68o 68w 694 69c 69h 69i 69k 69q 69r ",
     "69u 69x 69y 6a0 6a8 6ac 6ae 6ag 6ao 6aw 6b6 6b9 6ba 6bc 6ku 6kv 6ls 6m8 6mc 6md 79s 7ai 8q8 8rk ",
     "8rl 8rm 8rp 8rr 8rs 8rt 8ru 8rv 8rw 8rx 8s3 8s4 8s6 8s7 8sh 8si 8sj 8sk 8sl 8sm 8sn 8so 8sp 8sq ",
     "8sr 8ss 8st 8su 8sv 8sw 8sx 8sy 8sz 8t0 8t1 8t2 8t3 8t4 8t5 8t6 8t7 8t8 8t9 8ta 8tb 8tc 8td 8te ",
     "8tf 8tg 8th 8ti 8tj 8tk 8tl 8tm 8tn 8to 8tp 8tq 8tr 8ts 8tt 8tu 8tv 8tw 8tx 8ty 8tz 8u0 8u1 8u2 ",
     "8u3 8u4 8u5 8u6 8u7 8u8 8u9 8ua 8ub 8uc 8ud 8ue 8uf 8ug 8uh 8ui 8uj 8uk 8ul 8um 8un 8uo 8up 8uq ",
     "8ur 8us 8ut 8uu 8uv 8uw 8ux 8uy 8uz 8v0 8v1 8v2 8v3 8v4 8v5 8v6 8v7 8v8 8vg 8vh 8vi 8vj 8vn 8vo ",
     "8w0 8x2 8x3 8x4 8x9 8xa wu9 wua wub wuc wud wue wuf wug wuh wui wuj wuk wul wum wun wuo wup wuq ",
     "wur wus wut wuu wuv wuw wux wuy wuz wv0 wv1 wv2 wv3 wv4 wv5 wv6 wv7 wv8 wv9 wva wvb wvc wvd wve ",
     "wvf wvg wvh wvi ww1 ww2 ww3 ww4 ww5 ww6 ww7 ww8 ww9 wwa wwb wwc wwd wwe wwf wwg wwh wwi wwj wwk ",
     "wwl wwm wwn wwo wwp wwq wwr wws x0j x0k x0l x0m x0n x0o x0p x0q x0r x0s x0t x0u x0v x0w x0z x10 ",
     "x11 x12 x13 x14 x15 x16 x17 x18 x19 x1a x1b x1c x1d x1e x1f x1g x1h x1i x1j x1k x1l x1m x1n x1o ",
     "x1p x1q x1r x1s x1t x1u x1v x1w x1x x1y x1z x20 x21 x22 x23 x24 x25 x26 x27 x28 x29 x2a x2b x2c ",
     "x2d x2e x2f x2g x2h x2i x2j x2k x2l x2m x2n x2o x2y x2z x30 x31 x33 x34 x35 x36 x37 x38 x39 x3a ",
     "x3b x3c x3g x3h x3l x3m x3n x3p x3r x3s x3t x3u x3v x3w x3x x3y x3z x40 x41 x42 x43 x44 x45 x46 ",
     "x47 x48 x49 x4a x4l x4m x4n x4o x4p x4q x4r x4s x4t x4u x4v x4w x4x x4y x4z x50 x54 x55 x56 x57 ",
     "x5d x5e x5j x5k x5l x5m x6e x6f xub xuc xv4 xxc 1dkw 1dl3 1dlf 1dlk 1ef5 1efv 1fe0 1ff4 1fiw ",
     "1fjw 1fo7 1foi 1foj 1foy 1foz 1fp6 1fp7 1fp9 1h34 1h4j 1jgg 1jhc 20dc 20e8 2oma 2on8"]

def changesWhenTitlecasedSet : Array Nat := readBoundaries changesWhenTitlecasedTable

/-- The boundaries of Changes When Uppercased. -/
def changesWhenUppercasedTable : String :=
  String.join
    ["2p 3f 51 52 67 6v 6w 74 75 76 77 78 79 7a 7b 7c 7d 7e 7f 7g 7h 7i 7j 7k 7l 7m 7n 7o 7p 7q 7r 7s ",
     "7t 7u 7v 7w 7x 7y 7z 80 81 82 83 84 85 86 87 88 89 8a 8b 8c 8d 8e 8f 8g 8h 8i 8j 8k 8l 8m 8n 8o ",
     "8q 8r 8s 8t 8u 8v 8w 8x 8y 8z 90 91 92 93 94 96 97 98 99 9a 9b 9c 9d 9e 9f 9g 9h 9i 9j 9k 9l 9m ",
     "9n 9o 9p 9q 9r 9s 9t 9u 9v 9w 9x 9y 9z a0 a1 a2 a3 a4 a5 a6 a7 a8 a9 aa ab ac ad ae af ag ai aj ",
     "ak al am ap ar as at au aw ax b0 b1 b6 b7 b9 ba bd bf bi bj bl bm bn bo bp bq bs bt bx by c0 c1 ",
     "c4 c5 c6 c7 c9 ca cd ce cf cg cl cn co cq cr ct cu cv cw cx cy cz d0 d1 d2 d3 d4 d5 d6 d7 d8 da ",
     "db dc dd de df dg dh di dj dk dl dm dn do dp dq dr dt du dw dx dy e1 e2 e3 e4 e5 e6 e7 e8 e9 ea ",
     "eb ec ed ee ef eg eh ei ej ek el em en eo ep eq er es et eu ev ew ex ey ez f0 f1 f2 f3 f4 f7 f8 ",
     "f9 fa fb fc fd fe ff fg fh fi fj fk fl fm fn fo fw fx fz g1 g2 g3 g7 g8 g9 ga gb gc gd ge gf gl ",
     "gm go gp gq gr gt gw gy gz h0 h1 h3 h4 h9 hb hc hd hf hh hi hp hq hs ht hu hw hz i5 ia ib il in ",
     "n9 na oh oi oj ok on oo or ou pc pd q4 r3 r4 r6 r9 rc rd re rf rg rh ri rj rk rl rm rn ro rp rq ",
     "rr rs rt ru rv rw rx ry rz s4 s5 s6 s8 s9 sb sc ts v4 v5 v6 v7 v8 v9 va vb vc vd ve vf vg vh vi ",
     "vj vk vl vm vn vo vp vq vr vs vt vu vv vw vx vy vz w0 w1 w2 wb wc wd we wf wg wh wi wj wk wl wm ",
     "wn wo wp wq wr ws wt wu wv ww wx wy wz x0 x1 x2 x3 x4 x5 x6 x7 x8 x9 xa xb xc xd xe xf xg xh xi ",
     "xj xk xl xm xn xo xp xq xr xs xu xv xw xx xy xz y0 y1 y2 y3 y4 y5 y6 y8 y9 ya yb yc yd ye yf yg ",
     "yh yi yj yk yl ym yn yo yp yq yr ys yt yu yv yw yx yy yz z0 z1 z2 z3 z4 z5 z6 z7 z8 z9 za zb zc ",
     "zd ze zf zg zh zi zj zk zl zm zn zo zp zq zr zs zt zu zv zw zx zy zz 100 101 102 103 104 105 106 ",
     "107 108 109 10a 10b 10c 10d 10e 10f 10g 10h 10i 10j 10k 10l 10m 10n 10o 10p 10q 10r 10s 10t 10u ",
     "10v 10w 129 13c 3bk 3cr 3ct 3cw 3y0 3y6 5mo 5mx 5tl 5tm 5tp 5tq 5u6 5u7 5xd 5xe 5xf 5xg 5xh 5xi ",
     "5xj 5xk 5xl 5xm 5xn 5xo 5xp 5xq 5xr 5xs 5xt 5xu 5xv 5xw 5xx 5xy 5xz 5y0 5y1 5y2 5y3 5y4 5y5 5y6 ",
     "5y7 5y8 5y9 5ya 5yb 5yc 5yd 5ye 5yf 5yg 5yh 5yi 5yj 5yk 5yl 5ym 5yn 5yo 5yp 5yq 5yr 5ys 5yt 5yu ",
     "5yv 5yw 5yx 5yy 5yz 5z0 5z1 5z2 5z3 5z4 5z5 5z6 5z7 5z8 5z9 5za 5zb 5zc 5zd 5ze 5zf 5zg 5zh 5zi ",
     "5zj 5zk 5zl 5zm 5zn 5zo 5zp 5zq 5zr 5zs 5zt 5zu 5zv 5zw 5zx 5zy 5zz 600 601 602 603 604 605 606 ",
     "607 608 609 60a 60b 60c 60d 60e 60f 60g 60h 60i 60j 60k 60l 60m 60n 60o 60p 60q 60r 60s 60t 60u ",
     "60v 60w 60x 60y 60z 610 611 612 613 614 615 616 617 618 619 61a 61b 61c 61d 61e 61f 61g 61h 61o ",
     "61t 61u 61v 61w 61x 61y 61z 620 621 622 623 624 625 626 627 628 629 62a 62b 62c 62d 62e 62f 62g ",
     "62h 62i 62j 62k 62l 62m 62n 62o 62p 62q 62r 62s 62t 62u 62v 62w 62x 62y 62z 630 631 632 633 634 ",
     "635 636 637 638 639 63a 63b 63c 63d 63e 63f 63g 63h 63i 63j 63k 63l 63m 63n 63o 63p 63q 63r 63s ",
     "63t 63u 63v 63w 63x 63y 63z 640 641 642 643 644 645 646 647 648 649 64a 64b 64c 64d 64e 64f 64o ",
     "64w 652 65c 65k 65s 660 668 66e 66o 66w 674 67c 67k 67y 680 69h 69i 69k 69o 69p 69q 69r 69u 69x ",
     "69y 6a0 6a4 6a5 6a8 6ac 6ae 6ag 6ao 6aw 6b6 6b9 6ba 6bc 6bg 6bh 6ku 6kv 6ls 6m8 6mc 6md 79s 7ai ",
     "8q8 8rk 8rl 8rm 8rp 8rr 8rs 8rt 8ru 8rv 8rw 8rx 8s3 8s4 8s6 8s7 8sh 8si 8sj 8sk 8sl 8sm 8sn 8so ",
     "8sp 8sq 8sr 8ss 8st 8su 8sv 8sw 8sx 8sy 8sz 8t0 8t1 8t2 8t3 8t4 8t5 8t6 8t7 8t8 8t9 8ta 8tb 8tc ",
     "8td 8te 8tf 8tg 8th 8ti 8tj 8tk 8tl 8tm 8tn 8to 8tp 8tq 8tr 8ts 8tt 8tu 8tv 8tw 8tx 8ty 8tz 8u0 ",
     "8u1 8u2 8u3 8u4 8u5 8u6 8u7 8u8 8u9 8ua 8ub 8uc 8ud 8ue 8uf 8ug 8uh 8ui 8uj 8uk 8ul 8um 8un 8uo ",
     "8up 8uq 8ur 8us 8ut 8uu 8uv 8uw 8ux 8uy 8uz 8v0 8v1 8v2 8v3 8v4 8v5 8v6 8v7 8v8 8vg 8vh 8vi 8vj ",
     "8vn 8vo 8w0 8x2 8x3 8x4 8x9 8xa wu9 wua wub wuc wud wue wuf wug wuh wui wuj wuk wul wum wun wuo ",
     "wup wuq wur wus wut wuu wuv wuw wux wuy wuz wv0 wv1 wv2 wv3 wv4 wv5 wv6 wv7 wv8 wv9 wva wvb wvc ",
     "wvd wve wvf wvg wvh wvi ww1 ww2 ww3 ww4 ww5 ww6 ww7 ww8 ww9 wwa wwb wwc wwd wwe wwf wwg wwh wwi ",
     "wwj wwk wwl wwm wwn wwo wwp wwq wwr wws x0j x0k x0l x0m x0n x0o x0p x0q x0r x0s x0t x0u x0v x0w ",
     "x0z x10 x11 x12 x13 x14 x15 x16 x17 x18 x19 x1a x1b x1c x1d x1e x1f x1g x1h x1i x1j x1k x1l x1m ",
     "x1n x1o x1p x1q x1r x1s x1t x1u x1v x1w x1x x1y x1z x20 x21 x22 x23 x24 x25 x26 x27 x28 x29 x2a ",
     "x2b x2c x2d x2e x2f x2g x2h x2i x2j x2k x2l x2m x2n x2o x2y x2z x30 x31 x33 x34 x35 x36 x37 x38 ",
     "x39 x3a x3b x3c x3g x3h x3l x3m x3n x3p x3r x3s x3t x3u x3v x3w x3x x3y x3z x40 x41 x42 x43 x44 ",
     "x45 x46 x47 x48 x49 x4a x4l x4m x4n x4o x4p x4q x4r x4s x4t x4u x4v x4w x4x x4y x4z x50 x54 x55 ",
     "x56 x57 x5d x5e x5j x5k x5l x5m x6e x6f xub xuc xv4 xxc 1dkw 1dl3 1dlf 1dlk 1ef5 1efv 1fe0 1ff4 ",
     "1fiw 1fjw 1fo7 1foi 1foj 1foy 1foz 1fp6 1fp7 1fp9 1h34 1h4j 1jgg 1jhc 20dc 20e8 2oma 2on8"]

def changesWhenUppercasedSet : Array Nat := readBoundaries changesWhenUppercasedTable

/-- The boundaries of Dash. -/
def dashTable : String :=
  String.join
    ["19 1a 13e 13f 14u 14v 3y8 3y9 4qu 4qv 6c0 6c6 6dv 6dw 6ez 6f0 6ff 6fg 6qa 6qb 93r 93s 93u 93v ",
     "94q 94s 94w 94x 95p 95q 9i4 9i5 9io 9ip 9ls 9lt 1e7l 1e7n 1e8o 1e8p 1e8z 1e90 1edp 1edq 1hgt ",
     "1hgu"]

def dashSet : Array Nat := readBoundaries dashTable

/-- The boundaries of Default Ignorable Code Point. -/
def defaultIgnorableCodePointTable : String :=
  String.join
    ["4t 4u nj nk 17g 17h 3fj 3fl 4ok 4om 4qz 4r4 6bv 6c0 6cq 6cv 6e8 6eo 9r8 9r9 1e68 1e6o 1edb 1edc ",
     "1ehs 1eht 1ek0 1ek9 2fts 2ftw 2jxv 2jy3 jny8 jr40"]

def defaultIgnorableCodePointSet : Array Nat := readBoundaries defaultIgnorableCodePointTable

/-- The boundaries of Deprecated. -/
def deprecatedTable : String :=
  String.join
    ["95 96 19v 19w 31z 320 321 322 4o3 4o5 6ei 6eo 6y1 6y3 jny9 jnya"]

def deprecatedSet : Array Nat := readBoundaries deprecatedTable

/-- The boundaries of Diacritic. -/
def diacriticTable : String :=
  String.join
    ["2m 2n 2o 2p 4o 4p 4v 4w 50 51 53 55 j4 nj nk ns nx o3 ok om oq or p0 p2 w3 w8 121 122 13l 142 ",
     "143 14u 14v 14w 14x 14z 150 151 18r 18z 193 195 1cv 1cx 1d1 1d3 1d6 1d9 1f4 1fv 1ie 1ip 1kb 1km ",
     "1lk 1lm 1p4 1pc 1qh 1qr 1r7 1rz 1to 1tp 1u5 1u6 1u9 1ud 1v5 1v6 1x8 1x9 1xp 1xq 20s 20t 219 21a ",
     "24c 24d 24t 24u 265 268 27w 27x 28d 28e 28l 28m 2bx 2by 2f0 2f1 2fh 2fi 2ik 2il 2j1 2j2 2m3 2m5 ",
     "2ml 2mm 2q2 2q3 2tj 2tp 2tq 2tr 2wq 2wr 2x4 2x9 2zc 2ze 305 306 307 308 309 30a 30e 30g 32a 32d ",
     "32e 32g 346 347 37b 37c 37d 37f 38j 38l 38p 38u 39j 39q 39r 39s 3a2 3a4 3tp 3ts 4k4 4k6 4p5 4pg ",
     "4pp 4pq 4zd 4zg 585 58d 58f 58g 59s 5a7 5a9 5ak 5dg 5dh 5dw 5dx 5ez 5f8 5gq 5gs 5km 5ko 5mg 5mm ",
     "5ow 5pl 5pp 5pq 5pw 5px 5pz 5q2 5rg 5t7 5vo 5w0 5x1 5xc 69p 69q 69r 69u 6a5 6a8 6al 6ao 6b1 6b4 ",
     "6bh 6bj 8vj 8vm 94f 94g 9ii 9io 9ll 9lp 9oc 9od wvj wvk wvw wvy wvz ww0 wws wwu wz4 wz6 wzk x0i ",
     "x3c x3f x6g x6i xc4 xc5 xcw xde xez xf3 xg3 xg4 xir xis xj4 xj5 xk5 xk6 xob xoe xq7 xqb xrq xrr ",
     "xuj xuo xux xv0 xyk xym 1dlq 1dlr 1e74 1e7k 1ef2 1ef3 1ef4 1ef5 1egg 1egh 1ehq 1ehs 1ejn 1ejo ",
     "1f4w 1f4x 1g1s 1g1y 1g1z 1g35 1g36 1g3f 1gpx 1gpz 1h5u 1h60 1hj1 1hj4 1hl2 1hld 1hmq 1hmu 1hs6 ",
     "1hs7 1htc 1htd 1hvd 1hvf 1hyr 1hyt 1i0j 1i0k 1i2o 1i2p 1i2y 1i31 1i5x 1i5z 1iax 1iaz 1id8 1id9 ",
     "1idp 1idq 1iee 1iel 1ieo 1iet 1iki 1ikj 1ikm 1ikn 1io2 1io4 1iv3 1iv5 1iyn 1iyo 1j1y 1j20 1j57 ",
     "1j58 1jcp 1jcr 1jjx 1jjz 1jk3 1jk4 1jog 1joh 1jqs 1jqt 1jrb 1jrc 1jtl 1jtm 1k5b 1k5c 1kci 1kcj ",
     "1kck 1kcm 1kev 1kew 1ow7 1owm 1zow 1zp1 1zqo 1zqv 20lr 20m8 20og 20oi 2dbk 2dbo 2dbp 2dbw 2dbx ",
     "2dbz 2jgg 2jhq 2jhs 2jif 2jxj 2jxm 2jxp 2jxv 2jy3 2jyb 2jyd 2jyk 2jze 2jzi 2muo 2mwe 2n1s 2n1z ",
     "2nce 2ncf 2ne4 2ne8 2ok0 2ok7 2on8 2onb 2onc 2onf"]

def diacriticSet : Array Nat := readBoundaries diacriticTable

/-- The boundaries of Emoji. -/
def emojiTable : String :=
  String.join
    ["z 10 16 17 1c 1m 4p 4q 4u 4v 6d8 6d9 6dl 6dm 6jm 6jn 6k9 6ka 6ms 6my 6nd 6nf 6xm 6xo 6y0 6y1 72n ",
     "72o 73d 73o 73s 73v 79e 79f 7fu 7fw 7g6 7g7 7gg 7gh 7i3 7i7 7i8 7id 7im 7in 7ip 7iq 7is 7iu 7iw ",
     "7ix 7j1 7j2 7j4 7j5 7j6 7j8 7ja 7jb 7je 7jf 7ji 7jk 7js 7jv 7k0 7k1 7k2 7k3 7k8 7kk 7kv 7kx 7kz ",
     "7l0 7l1 7l3 7l4 7l5 7ln 7lo 7lq 7ls 7ma 7mg 7mh 7mi 7mj 7ml 7mo 7mq 7mv 7mw 7my 7n0 7n4 7n6 7nh ",
     "7nj 7no 7nq 7ns 7nt 7ny 7o0 7o1 7o2 7o3 7o5 7op 7or 7ow 7p2 7p3 7p7 7p9 7pa 7pe 7pf 7ph 7pi 7pk ",
     "7pq 7pr 7ps 7pu 7pv 7pw 7px 7py 7pz 7q5 7q6 7q9 7qa 7qg 7qh 7qr 7qt 7r8 7r9 7rb 7rc 7rg 7rh 7ri ",
     "7rj 7rn 7rq 7rr 7rs 7s3 7s5 7th 7tk 7tt 7tu 7u8 7u9 7un 7uo 850 852 8hx 8i0 8ij 8il 8k0 8k1 8k5 ",
     "8k6 9io 9ip 9j1 9j2 9zr 9zs 9zt 9zu 2pz8 2pz9 2q4v 2q4w 2q9c 2q9e 2q9q 2q9s 2qa6 2qa7 2qa9 2qaj ",
     "2qcm 2qdc 2qdd 2qdf 2qe2 2qe3 2qen 2qeo 2qeq 2qez 2qfk 2qfm 2qkg 2qle 2qlg 2qok 2qom 2qoo 2qop ",
     "2qos 2qou 2qr5 2qr7 2qra 2qrb 2qym 2qyn 2r0e 2r0p 2r0v 2r0w 2r1k 2r1r 2r1t 2r1v 2r23 2r2f 2r2g ",
     "2r2i 2r2m 2r2o 2r2p 2r2t 2r2v 2r38 2r3a 2r3c 2r3d 2r3l 2r3n 2r3w 2r3x 2r42 2r45 2r4h 2r4k 2r4s ",
     "2r4v 2r4x 2r4y 2r4z 2r50 2r54 2r55 2r5b 2r5c 2r5f 2r5g 2r5m 2r80 2r9c 2rba 2rbf 2rbn 2rbp 2rbs ",
     "2rbw 2rc6 2rc9 2rca 2rcb 2rcd 2rcg 2rch 2rcj 2rct 2rj4 2rjg 2rjk 2rjl 2rrg 2rsr 2rss 2rt2 2rt3 ",
     "2ry8 2s1c 2s1p 2s1s 2s21 2s28 2s3i 2s3j 2s3q 2s3y 2s4c 2s4g 2s4p 2s4w 2s55"]

def emojiSet : Array Nat := readBoundaries emojiTable

/-- The boundaries of Emoji Component. -/
def emojiComponentTable : String :=
  String.join
    ["z 10 16 17 1c 1m 6bx 6by 6hv 6hw 1e6n 1e6o 2qcm 2qdc 2qrf 2qrk 2rw0 2rw4 jnz4 jo1s"]

def emojiComponentSet : Array Nat := readBoundaries emojiComponentTable

/-- The boundaries of Emoji Modifier. -/
def emojiModifierTable : String :=
  String.join
    ["2qrf 2qrk"]

def emojiModifierSet : Array Nat := readBoundaries emojiModifierTable

/-- The boundaries of Emoji Modifier Base. -/
def emojiModifierBaseTable : String :=
  String.join
    ["7j1 7j2 7p5 7p6 7pm 7pq 2qo5 2qo6 2qpu 2qpx 2qpz 2qq0 2qq2 2qq5 2qte 2qtg 2qti 2qtt 2que 2qux ",
     "2qv0 2qv1 2qv5 2qv8 2qv9 2qvc 2qvj 2qvk 2qvl 2qvm 2qwa 2qwb 2r1w 2r1y 2r22 2r23 2r2o 2r2p 2r2t ",
     "2r2v 2r7p 2r7s 2r7v 2r80 2rab 2rac 2ras 2rav 2rb4 2rb5 2rbg 2rbh 2rrg 2rrh 2rrj 2rrk 2rrs 2rs0 ",
     "2rs6 2rs7 2rsg 2rsq 2rss 2rsv 2ruf 2rug 2rw5 2rw7 2rw8 2rwa 2rwb 2rwc 2rwt 2rww 2rwx 2rxa 2s3n ",
     "2s3q 2s4w 2s55"]

def emojiModifierBaseSet : Array Nat := readBoundaries emojiModifierBaseTable

/-- The boundaries of Emoji Presentation. -/
def emojiPresentationTable : String :=
  String.join
    ["6xm 6xo 73d 73h 73k 73l 73n 73o 7i5 7i7 7is 7iu 7k8 7kk 7lr 7ls 7mb 7mc 7mp 7mq 7my 7n0 7nh 7nj ",
     "7no 7nq 7ny 7nz 7o4 7o5 7oq 7or 7oy 7p0 7p1 7p2 7p6 7p7 7p9 7pa 7ph 7pi 7pm 7po 7qg 7qh 7rg 7rh ",
     "7ri 7rj 7rn 7rq 7rr 7rs 7th 7tk 7u8 7u9 7un 7uo 8ij 8il 8k0 8k1 8k5 8k6 2pz8 2pz9 2q4v 2q4w 2qa6 ",
     "2qa7 2qa9 2qaj 2qcm 2qdc 2qdd 2qde 2qe2 2qe3 2qen 2qeo 2qeq 2qev 2qew 2qez 2qfk 2qfm 2qkg 2qld ",
     "2qlp 2qly 2qlz 2qnx 2qny 2qok 2qow 2qq3 2qq7 2qqc 2qqo 2qr5 2qr8 2qr9 2qrc 2qtb 2qtc 2qtd 2qte ",
     "2qyl 2qyn 2r0e 2r0r 2r0v 2r0w 2r1k 2r22 2r23 2r2t 2r2v 2r38 2r39 2r5n 2r80 2r9c 2rba 2rbg 2rbh ",
     "2rbk 2rbn 2rbp 2rbs 2rbw 2rc0 2rcb 2rcd 2rck 2rct 2rj4 2rjg 2rjk 2rjl 2rrg 2rsr 2rss 2rt2 2rt3 ",
     "2ry8 2s1c 2s1p 2s1s 2s21 2s28 2s3i 2s3j 2s3q 2s3y 2s4c 2s4g 2s4p 2s4w 2s55"]

def emojiPresentationSet : Array Nat := readBoundaries emojiPresentationTable

/-- The boundaries of Extended Pictographic. -/
def extendedPictographicTable : String :=
  String.join
    ["4p 4q 4u 4v 6d8 6d9 6dl 6dm 6jm 6jn 6k9 6ka 6ms 6my 6nd 6nf 6xm 6xo 6y0 6y1 70o 70p 72n 72o 73d ",
     "73o 73s 73v 79e 79f 7fu 7fw 7g6 7g7 7gg 7gh 7i3 7i7 7i8 7ie 7if 7ir 7is 7ly 7m8 7pi 7pk 7pv 7pw ",
     "7px 7py 7pz 7q5 7q6 7q9 7qa 7qg 7qh 7qr 7qt 7r8 7r9 7rb 7rc 7rg 7rh 7ri 7rj 7rn 7rq 7rr 7rs 7s3 ",
     "7s8 7th 7tk 7tt 7tu 7u8 7u9 7un 7uo 850 852 8hx 8i0 8ij 8il 8k0 8k1 8k5 8k6 9io 9ip 9j1 9j2 9zr ",
     "9zs 9zt 9zu 2pz4 2q68 2q6l 2q6o 2q7j 2q7k 2q98 2q9e 2q9q 2q9s 2qa6 2qa7 2qa9 2qaj 2qb1 2qcm 2qdd ",
     "2qds 2qe2 2qe3 2qen 2qeo 2qeq 2qez 2qf0 2qf4 2qfd 2qrf 2qrk 2r0e 2r0m 2r80 2r9c 2rcw 2rg4 2rgg ",
     "2rit 2rk0 2rkc 2rkg 2rm0 2rm8 2rmi 2rmo 2rns 2ro0 2rou 2rr4 2rrg 2rsr 2rss 2rt2 2rt3 2s5c 2scg ",
     "2t4u"]

def extendedPictographicSet : Array Nat := readBoundaries extendedPictographicTable

/-- The boundaries of Extender. -/
def extenderTable : String :=
  String.join
    ["53 54 k0 k2 18g 18h 1kq 1kr 28l 28m 2ti 2tj 2x2 2x3 4qy 4qz 4sj 4sk 59j 59k 5km 5kn 5mj 5mk 9hh ",
     "9hi 9ip 9iu 9lp 9lr 9oc 9of vmd vme wss wst xjj xjk xk6 xk7 xo0 xo1 xr1 xr2 xrn xrp 1egg 1egh ",
     "1g1t 1g1v 1ie5 1ie6 1iva 1ivd 1jtk 1jtl 1zr6 1zr8 20o0 20o2 20o3 20o4 2n24 2n26 2on8 2onb"]

def extenderSet : Array Nat := readBoundaries extenderTable

/-- The boundaries of Grapheme Base. -/
def graphemeBaseTable : String :=
  String.join
    ["w 3j 4g 4t 4u lc og oo oq ow p0 p7 p8 p9 pa pu pv w3 wa 10w 10x 11z 121 13f 13h 13k 14u 14v 14w ",
     "14x 14z 150 152 153 15c 163 167 16d 16u 174 17f 17g 17h 18r 19c 19s 19t 1cm 1cu 1cv 1d1 1d3 1d5 ",
     "1d6 1da 1e6 1e8 1e9 1ea 1f4 1fx 1ie 1ip 1iq 1j4 1kb 1kk 1kr 1ku 1li 1lm 1ln 1lw 1lx 1m0 1m1 1m8 ",
     "1mn 1mo 1nd 1ni 1nj 1nk 1nv 1o0 1ov 1pc 1qi 1s3 1tm 1tn 1to 1tp 1tt 1u1 1u5 1u6 1u9 1ug 1uq 1us ",
     "1vl 1vm 1vo 1vp 1vx 1vz 1w1 1w3 1wp 1wq 1wx 1wy 1wz 1x2 1x6 1x9 1xa 1xb 1xd 1xj 1xl 1xn 1xp 1xq ",
     "1xr 1y4 1y6 1y7 1ya 1ye 1z2 1z7 1z8 1z9 1zf 1zj 1zl 1zn 209 20a 20h 20i 20k 20l 20n 20o 20q 20u ",
     "20x 21l 21p 21q 21r 21y 228 22a 22d 22e 22f 22r 22s 22t 232 233 236 237 23t 23u 241 242 244 245 ",
     "24a 24d 24h 24p 24q 24r 24t 24w 24x 25c 25e 25i 25u 261 262 26a 26c 26d 26l 26n 26p 26r 27d 27e ",
     "27l 27m 27o 27p 27u 27x 27y 280 281 287 289 28b 28d 28s 28u 28v 28y 292 29k 29v 29w 29x 2a3 2a6 ",
     "2a9 2aa 2ae 2ah 2aj 2ak 2al 2am 2ao 2ar 2at 2aw 2az 2b2 2be 2bj 2bk 2bl 2bn 2bq 2bt 2bu 2bx 2c0 ",
     "2c1 2cm 2d7 2dd 2dg 2dh 2dp 2dq 2dt 2du 2eh 2ei 2ey 2f1 2f2 2f5 2f9 2fs 2fv 2fx 2fy 2g0 2g2 2g6 ",
     "2gg 2gn 2gx 2gy 2h9 2ha 2hd 2he 2i1 2i2 2ic 2id 2ii 2il 2in 2io 2iq 2ir 2it 2iv 2ix 2iy 2j0 2jh ",
     "2jj 2jk 2jm 2jq 2k0 2k1 2k4 2ki 2kt 2ku 2kx 2ky 2m3 2m5 2m6 2m7 2m9 2me 2mh 2mi 2ml 2mm 2mo 2ms ",
     "2mv 2mw 2n6 2na 2o0 2o2 2o4 2o5 2on 2oq 2pe 2pf 2po 2pp 2pq 2ps 2pz 2q8 2qa 2qg 2qn 2qu 2r4 2r6 ",
     "2r9 2rl 2sx 2sy 2t0 2tb 2tj 2tr 2u4 2v5 2v7 2v8 2v9 2va 2vf 2vg 2w4 2w5 2w6 2w7 2wh 2wi 2wk 2wt ",
     "2wu 2ww 2x1 2x2 2x3 2xc 2xm 2xo 2xs 2yo 2zc 2ze 305 306 307 308 309 30a 30o 30p 31p 327 328 32d ",
     "32e 32g 32l 33y 346 347 34d 34e 34r 35s 371 375 376 37c 37d 37f 37h 37j 388 38a 38e 38h 38x 391 ",
     "39e 39f 39h 39j 39p 39q 3a5 3a6 3ba 3bb 3bc 3bh 3bi 3bk 3m1 3m2 3m6 3m8 3mf 3mg 3mh 3mi 3mm 3mo ",
     "3nt 3nu 3ny 3o0 3ox 3oy 3p2 3p4 3pb 3pc 3pd 3pe 3pi 3pk 3pz 3q0 3rl 3rm 3rq 3rs 3tn 3ts 3ul 3uo ",
     "3ve 3vk 3xy 3y0 3y6 3y8 4gt 4gw 4jd 4jk 4k2 4k5 4k6 4kf 4ky 4l0 4l3 4lc 4lu 4m8 4ml 4mm 4mp 4n4 ",
     "4ok 4om 4on 4ou 4p2 4p3 4p5 4pg 4pp 4ps 4q2 4q8 4qi 4qo 4qz 4r4 4re 4rk 4u1 4u8 4ud 4uf 4vd 4ve ",
     "4vf 4vk 4xi 4xs 4yn 4yr 4yv 4yx 4z0 4z4 4z6 4z7 4zd 4zk 4zl 4zo 50u 50w 511 51c 52k 52o 53e 53k ",
     "53v 53y 55j 55l 55n 55q 57a 57b 57c 57l 57m 57n 57p 57x 583 58g 58q 58w 596 59c 59q 5c4 5dg 5dn ",
     "5do 5dp 5du 5dv 5e5 5e8 5ez 5f8 5fj 5fm 5gi 5gm 5go 5gq 5gr 5gu 5ie 5if 5ig 5ii 5il 5im 5in 5iq ",
     "5is 5j0 5kc 5kk 5km 5kr 5l6 5l9 5mx 5n4 5ob 5od 5oo 5oz 5p0 5pd 5pe 5pl 5pp 5pq 5pw 5px 5q0 5q2 ",
     "5q3 5q8 5vk 5xc 652 654 65a 65c 66e 66g 66m 66o 66w 66x 66y 66z 670 671 672 673 67y 680 69h 69i ",
     "69x 69y 6ac 6ae 6ak 6al 6b4 6b6 6b9 6ba 6bj 6bk 6bv 6c0 6co 6cv 6e8 6eo 6eq 6es 6fj 6fk 6fx 6g0 ",
     "6gx 6io 6mk 6mo 753 75s 763 76o 8l0 8l2 8ly 8lz 8vj 8vm 8vo 8vt 8x2 8x3 8x4 8x9 8xa 8xc 8yw 8z3 ",
     "8z5 8zk 907 90g 90n 90o 90v 90w 913 914 91b 91c 91j 91k 91r 91s 91z 920 927 934 95q 96o 97e 97f ",
     "99w 9a8 9g6 9gw 9h8 9hc 9ii 9io 9j4 9j5 9lj 9ln 9og 9ol 9ps 9pt 9sf 9sg 9us 9v4 9wf 9wg wi5 wi8 ",
     "wjr wk0 wto wu8 wvj wvn wvo wvy wwu www wz4 wz6 wzc wzk x57 x5c x5e x5f x5g x5h x5m x6a x6q x6r ",
     "x6u x6v x6z x70 x7p x7r x7w x80 x8a x8g xa0 xa8 xc4 xce xcq xde xdr xds xeu xf2 xfr xg2 xg4 xgf ",
     "xh9 xhf xir xis xiu xiy xj0 xj2 xji xjj xju xjy xk5 xk6 xkv xkw xm1 xm7 xm9 xmb xmd xmo xmr xms ",
     "xn0 xn1 xn2 xn4 xne xng xoc xod xps xpt xpu xpx xpz xq1 xq6 xq8 xq9 xqa xqb xqz xrg xri xrq xs1 ",
     "xs7 xs9 xsf xsh xsn xsw xt3 xt4 xtb xtc xv0 xv4 xyd xye xyg xyh xyl xyo xyy xz4 16lg 16ls 16mf ",
     "16mj 16nw 1d6o 1dgu 1dgw 1dju 1dkw 1dl3 1dlf 1dlk 1dlp 1dlq 1dlr 1dmf 1dmg 1dml 1dmm 1dmn 1dmo ",
     "1dmq 1dmr 1dmt 1dmu 1dqb 1dqr 1e34 1e36 1e4o 1e4v 1e4w 1e5s 1e68 1e6o 1e6y 1e7k 1e8j 1e8k 1e93 ",
     "1e94 1e98 1e9c 1e9h 1e9i 1ed9 1edd 1ehq 1ehs 1ein 1eiq 1eiw 1eiy 1ej4 1ej6 1ejc 1eje 1ejh 1ejk ",
     "1ejr 1ejs 1ejz 1ekc 1eke 1ekg 1eks 1ekt 1elj 1elk 1em3 1em4 1em6 1em7 1emm 1emo 1en2 1eo0 1erf ",
     "1erk 1ern 1err 1et0 1et3 1evj 1evk 1evx 1ew0 1ew1 1exc 1eyl 1f28 1f31 1f34 1f4h 1f4x 1f5o 1f5s ",
     "1f6s 1f71 1f7v 1f80 1f92 1f9c 1fa6 1fa7 1fb8 1fbc 1fbq 1fcw 1fha 1fhc 1fhm 1fhs 1fis 1fiw 1fjw ",
     "1fk0 1fl4 1flc 1fms 1fn3 1fnf 1fng 1fnv 1fnw 1fo3 1fo4 1fo6 1fo7 1foi 1foj 1foy 1foz 1fp6 1fp7 ",
     "1fp9 1fr4 1fzr 1g00 1g0m 1g0w 1g14 1g1s 1g1y 1g1z 1g35 1g36 1g3f 1g5c 1g5i 1g5k 1g5l 1g5m 1g6u ",
     "1g6v 1g6x 1g70 1g71 1g73 1g7q 1g7r 1g9r 1g9z 1ga8 1gbk 1gc3 1gc4 1gc6 1gcb 1gd8 1gdb 1ge2 1ge7 ",
     "1ge8 1gg0 1ghk 1gho 1gi8 1gia 1gjl 1gk0 1gk4 1gk5 1gk8 1gk9 1gl2 1glc 1gll 1gls 1gm1 1gm8 1go0 ",
     "1gow 1gpx 1gq3 1gqf 1gqo 1gs6 1gs9 1gt2 1gt4 1gtv 1gu0 1guq 1gux 1gv1 1gvd 1gvk 1gxs 1gzt 1h1c ",
     "1h2r 1h34 1h4j 1h4q 1h5w 1h68 1h6i 1heo 1hfj 1hfk 1hgq 1hgt 1hgu 1hgw 1hgy 1hj4 1hk8 1hkg 1hl2 ",
     "1hld 1hlm 1hm8 1hmq 1hmu 1hmy 1ho0 1hos 1hpc 1hpz 1hq8 1hq9 1hqa 1hrs 1hs7 1hse 1hsi 1htc 1htd ",
     "1htf 1hth 1hti 1htu 1hv7 1hvb 1hvd 1hvf 1hvh 1hvi 1hvm 1hw0 1hwp 1hww 1hx6 1hxf 1hyf 1hyk 1hyl ",
     "1hyu 1hzc 1hzk 1i0j 1i0k 1i0n 1i0y 1i2e 1i2n 1i2x 1i31 1i33 1i34 1i3k 1i3l 1i45 1i4g 1i4y 1i4z ",
     "1i5r 1i5u 1i5w 1i5x 1i5y 1i60 1i66 1i67 1i69 1i80 1i87 1i88 1i89 1i8a 1i8e 1i8f 1i8u 1i8v 1i96 ",
     "1i9c 1ian 1iao 1iar 1ib4 1ibe 1ibm 1ibo 1ibp 1ibx 1ibz 1ic1 1ic3 1icp 1icq 1icx 1icy 1id0 1id1 ",
     "1id6 1id9 1ida 1idb 1idc 1idd 1idh 1idj 1idl 1idn 1idq 1ids 1idt 1ie5 1iec 1iio 1ik8 1ikg 1iki ",
     "1ikl 1ikm 1ikn 1il8 1il9 1ila 1ilb 1ile 1im8 1ink 1inl 1inn 1int 1inu 1inv 1inx 1iny 1inz 1io1 ",
     "1io2 1io4 1io8 1iog 1ioq 1itc 1iun 1iuo 1iuq 1iuw 1iv0 1iv2 1iv3 1iv5 1ivw 1iww 1iyb 1iyj 1iyl ",
     "1iym 1iyn 1iyp 1iyt 1iz4 1ize 1izk 1izx 1j0g 1j1n 1j1o 1j1p 1j1q 1j1s 1j1y 1j1z 1j20 1j22 1j28 ",
     "1j2i 1j40 1j4r 1j4w 1j4y 1j52 1j53 1j5c 1j5z 1jb4 1jcf 1jco 1jcp 1jcr 1jcs 1jfk 1jhv 1ji7 1jif ",
     "1jih 1jii 1jik 1jis 1jit 1jiv 1jiw 1jjk 1jjl 1jjq 1jjr 1jjt 1jjx 1jjy 1jjz 1jk3 1jk4 1jk7 1jkg ",
     "1jkq 1jmo 1jmw 1jmy 1jo4 1joc 1jog 1joh 1jol 1jpc 1jpd 1jpn 1jqr 1jqx 1jqz 1jr3 1jrb 1jrk 1jrl ",
     "1jrr 1jrt 1jrw 1jt6 1jtj 1jtk 1jtm 1jtv 1ju8 1jw9 1jwg 1jwq 1k3k 1k3t 1k3u 1k4w 1k5a 1k5b 1k5c ",
     "1k5i 1k5s 1k6l 1k6o 1k7k 1k89 1k8a 1k8h 1k8i 1k8k 1k8l 1kao 1kav 1kaw 1kay 1kaz 1kc1 1kcm 1kcn ",
     "1kcw 1kd6 1kdc 1kdi 1kdj 1kdl 1kdm 1ken 1ker 1ket 1keu 1kev 1kew 1kex 1kf4 1kfe 1ko0 1koj 1kol ",
     "1kop 1koy 1kpd 1kpe 1kqe 1kqm 1kqo 1kqp 1kqq 1kqr 1kre 1kts 1ktt 1ku8 1kvm 1kvz 1llm 1log 1lrj ",
     "1lrk 1lrp 1ls0 1lxg 1nyo 1o1f 1o1s 1ovk 1ow1 1ow7 1s00 1sg7 1z40 1zjt 1zk0 1zkv 1zkw 1zl6 1zla ",
     "1znj 1znk 1znu 1zo0 1zou 1zp1 1zp2 1zpc 1zqo 1zqv 1zra 1zrk 1zru 1zrv 1zs2 1zs3 1zso 1zst 1ztc ",
     "20cg 20ez 20hs 20jv 20k0 20lk 20lv 20m8 20o0 20o4 20og 20oi 20ow 25fc 25fk 26dy 26f4 26fd 2dbk ",
     "2dbo 2dbp 2dbw 2dbx 2dbz 2dc0 2dk3 2dki 2dkj 2dlc 2dlf 2dlh 2dli 2dlw 2dm0 2dm8 2dx8 2fpc 2fsb ",
     "2fsg 2fst 2fsw 2ft5 2ftc 2ftm 2fto 2ftp 2ftr 2fts 2jio 2jlw 2jnk 2jue 2juo 2jvr 2jvt 2jxh 2jxi ",
     "2jxj 2jxm 2jxq 2jyb 2jyd 2jyk 2jze 2jzi 2k17 2k1s 2k3m 2k3p 2k3q 2k74 2k7o 2k80 2k8k 2k8w 2kbb ",
     "2kbk 2kc9 2kg0 2kid 2kie 2kkd 2kke 2kkg 2kki 2kkj 2kkl 2kkn 2kkp 2kkt 2kku 2kl6 2kl7 2kl8 2kl9 ",
     "2klg 2klh 2kna 2knb 2knf 2knh 2knp 2knq 2knx 2kny 2koq 2kor 2kov 2kow 2kp1 2kp2 2kp3 2kp6 2kpd ",
     "2kpe 2kyu 2kyw 2l70 2l72 2lmo 2lo7 2lob 2lpp 2lpx 2lpy 2lqc 2lqd 2lqk 2mm8 2mn3 2mn9 2mnf 2muo ",
     "2mwe 2n0g 2n1p 2n1z 2n26 2n28 2n2i 2n2m 2n2o 2nbk 2nce 2ncw 2ne4 2ne8 2nei 2nen 2neo 2nrk 2nsc ",
     "2nsg 2nsq 2odc 2odj 2odk 2odo 2odp 2odr 2ods 2oe7 2oe8 2ojp 2ojr 2ok0 2olc 2on8 2onf 2ong 2onk ",
     "2onu 2ony 2oo0 2p9t 2pbp 2pdt 2pfi 2pkw 2pl0 2pl1 2pls 2plt 2plv 2plw 2plx 2plz 2pm0 2pm1 2pmb ",
     "2pmc 2pmg 2pmh 2pmi 2pmj 2pmk 2pmq 2pmr 2pmv 2pmw 2pmx 2pmy 2pmz 2pn0 2pn1 2pn4 2pn5 2pn7 2pn8 ",
     "2pn9 2pnb 2pnc 2pnd 2pne 2pnf 2png 2pnh 2pni 2pnj 2pnk 2pnl 2pnn 2pno 2pnp 2pnr 2pnv 2pnw 2po3 ",
     "2po4 2po8 2po9 2pod 2poe 2pof 2pog 2poq 2por 2pp8 2ppd 2ppg 2pph 2ppm 2ppn 2pq4 2prk 2prm 2pz4 ",
     "2q0c 2q0g 2q38 2q3k 2q3z 2q41 2q4g 2q4h 2q4w 2q4x 2q5y 2q68 2qb2 2qcm 2qdf 2qds 2qf0 2qf4 2qfd ",
     "2qfk 2qfm 2qg0 2qg6 2qkg 2rbs 2rbw 2rcd 2rcg 2rct 2rcw 2rg7 2rgb 2riy 2rj4 2rjg 2rjk 2rjl 2rk0 ",
     "2rkc 2rkg 2rm0 2rm8 2rmi 2rmo 2rns 2ro0 2rou 2row 2roy 2rr4 2s0k 2s0w 2s1a 2s1c 2s1p 2s1s 2s21 ",
     "2s28 2s3i 2s3j 2s3q 2s3y 2s4c 2s4g 2s4p 2s4w 2s55 2s5c 2s9f 2s9g 2saz 2sc0 2sca 2t4w 3q3k 3q4g ",
     "3tbu 3tc0 3ti6 3ti8 3xya 3xyo 43q9 464g 46ji 47pc 4bij 4bio 4er4"]

def graphemeBaseSet : Array Nat := readBoundaries graphemeBaseTable

/-- The boundaries of Grapheme Extend. -/
def graphemeExtendTable : String :=
  String.join
    ["lc og w3 wa 13l 14u 14v 14w 14x 14z 150 152 153 154 174 17f 18r 19c 19s 19t 1cm 1ct 1cv 1d1 1d3 ",
     "1d5 1d6 1da 1e9 1ea 1f4 1fv 1ie 1ip 1kb 1kk 1kt 1ku 1li 1lm 1ln 1lw 1lx 1m0 1m1 1m6 1nd 1ng 1p4 ",
     "1pc 1qi 1r6 1r7 1s3 1tm 1tn 1to 1tp 1tt 1u1 1u5 1u6 1u9 1ug 1uq 1us 1vl 1vm 1x8 1x9 1xa 1xb 1xd ",
     "1xh 1xp 1xq 1xz 1y0 1ya 1yc 1z2 1z3 1z5 1z7 20s 20t 20x 20z 213 215 217 21a 21d 21e 228 22a 22d ",
     "22e 22p 22r 24c 24d 24h 24m 24n 24p 24t 24u 25e 25g 262 268 269 26a 27w 27x 27y 280 281 285 28d ",
     "28e 28l 28o 28y 290 29u 29v 2bi 2bj 2bk 2bl 2bx 2by 2c7 2c8 2dc 2dd 2dg 2dh 2f0 2f1 2f2 2f5 2fa ",
     "2fd 2fe 2fi 2fp 2fr 2g2 2g4 2gx 2gy 2ik 2il 2in 2io 2iq 2ir 2iu 2iv 2j0 2j2 2j9 2jb 2jm 2jo 2kg ",
     "2ki 2m3 2m5 2m6 2m7 2m9 2md 2ml 2mm 2mv 2mw 2n6 2n8 2o1 2o2 2q2 2q3 2q7 2q8 2qa 2qd 2qe 2qf 2qn ",
     "2qo 2sx 2sy 2t0 2t7 2tj 2tr 2wh 2wi 2wk 2wt 2x4 2xb 2zc 2ze 305 306 307 308 309 30a 31t 327 328 ",
     "32d 32e 32g 32l 32w 32x 33x 346 347 371 375 376 37c 37d 37f 37h 37j 388 38a 38e 38h 38x 391 39e ",
     "39f 39h 39j 39p 39q 3a5 3a6 3tp 3ts 4k2 4k5 4ky 4l0 4lu 4lw 4mq 4ms 4ok 4om 4on 4ou 4p2 4p3 4p5 ",
     "4pg 4pp 4pq 4qz 4r2 4r3 4r4 4ud 4uf 4vd 4ve 4yo 4yr 4yv 4yx 4z6 4z7 4zd 4zg 55j 55l 55n 55o 57a ",
     "57b 57c 57j 57k 57l 57m 57n 57p 57x 583 58d 58f 58g 59s 5an 5c0 5c4 5dg 5dn 5do 5dp 5du 5dv 5ez ",
     "5f8 5fk 5fm 5gi 5gm 5go 5gq 5gr 5gu 5ie 5if 5ig 5ii 5il 5im 5in 5iq 5kc 5kk 5km 5ko 5ow 5oz 5p0 ",
     "5pd 5pe 5pl 5pp 5pq 5pw 5px 5q0 5q2 5vk 5xc 6bw 6bx 6hc 6i9 8vj 8vm 8zj 8zk 928 934 9ii 9io 9ll ",
     "9ln wvj wvn wvo wvy wwu www wz4 wz6 x6q x6r x6u x6v x6z x70 x7p x7r x7w x7x xc4 xc6 xcw xde xdr ",
     "xds xeu xf2 xfr xg2 xhc xhf xir xis xiu xiy xj0 xj2 xk5 xk6 xm1 xm7 xm9 xmb xmd xmf xmr xms xn0 ",
     "xn1 xoc xod xps xpt xpu xpx xpz xq1 xq6 xq8 xq9 xqa xrg xri xrq xrr xyd xye xyg xyh xyl xym 1dlq ",
     "1dlr 1e68 1e6o 1e74 1e7k 1ehq 1ehs 1eyl 1eym 1f4w 1f4x 1f92 1f97 1gjl 1gjo 1gjp 1gjr 1gjw 1gk0 ",
     "1gl4 1gl7 1glb 1glc 1gpx 1gpz 1h5w 1h60 1hgr 1hgt 1hj1 1hj4 1hl2 1hld 1hmq 1hmu 1hq9 1hqa 1hrs ",
     "1hs7 1htc 1htd 1htf 1hth 1htr 1htu 1hv7 1hvb 1hvd 1hvf 1hvm 1hvn 1hxc 1hxf 1hyf 1hyk 1hyl 1hyt ",
     "1i0j 1i0k 1i0w 1i0y 1i2e 1i2n 1i2x 1i31 1i33 1i34 1i5r 1i5u 1i5w 1i5x 1i5y 1i60 1i66 1i67 1i69 ",
     "1i6a 1ian 1iao 1iar 1iaz 1ibk 1ibm 1id7 1id9 1ida 1idb 1idc 1idd 1idz 1ie0 1iee 1iel 1ieo 1iet ",
     "1ik8 1ikg 1iki 1ikl 1ikm 1ikn 1ila 1ilb 1ink 1inl 1inn 1int 1inu 1inv 1inx 1iny 1inz 1io1 1io2 ",
     "1io4 1iun 1iuo 1iuq 1iuu 1iv0 1iv2 1iv3 1iv5 1ivw 1ivy 1iyb 1iyj 1iyl 1iym 1iyn 1iyp 1j1n 1j1o ",
     "1j1p 1j1q 1j1s 1j1y 1j1z 1j20 1j4t 1j4w 1j4y 1j52 1j53 1j58 1jcf 1jco 1jcp 1jcr 1jjk 1jjl 1jjv ",
     "1jjx 1jjy 1jjz 1jk3 1jk4 1jo4 1jo8 1joa 1joc 1jog 1joh 1jpd 1jpn 1jqr 1jqx 1jqz 1jr3 1jrb 1jrc ",
     "1jrl 1jrr 1jrt 1jrw 1jt6 1jtj 1jtk 1jtm 1k4w 1k53 1k54 1k5a 1k5b 1k5c 1k7m 1k88 1k8a 1k8h 1k8i ",
     "1k8k 1k8l 1k8n 1kc1 1kc7 1kca 1kcb 1kcc 1kce 1kcf 1kcm 1kcn 1kco 1keo 1keq 1ket 1keu 1kev 1kew ",
     "1koj 1kol 1kow 1koy 1kqe 1kqj 1kqo 1kqp 1kqq 1kqr 1ow0 1ow1 1ow7 1owm 1zow 1zp1 1zqo 1zqv 20jz ",
     "20k0 20lr 20lv 20o4 20o5 2ftp 2ftr 2jgg 2jhq 2jhs 2jif 2jxh 2jxi 2jxj 2jxm 2jxq 2jxv 2jy3 2jyb ",
     "2jyd 2jyk 2jze 2jzi 2k3m 2k3p 2lmo 2lo7 2lob 2lpp 2lpx 2lpy 2lqc 2lqd 2lqz 2lr4 2lr5 2lrk 2mtc ",
     "2mtj 2mtk 2mu1 2mu3 2mua 2mub 2mud 2mue 2muj 2mxb 2mxc 2n1s 2n1z 2nce 2ncf 2ne4 2ne8 2nsc 2nsg ",
     "2ok0 2ok7 2on8 2onf jnz4 jo1s jo5c joc0"]

def graphemeExtendSet : Array Nat := readBoundaries graphemeExtendTable

/-- The boundaries of Hex Digit. -/
def hexDigitTable : String :=
  String.join
    ["1c 1m 1t 1z 2p 2v 1eds 1ee2 1ee9 1eef 1ef5 1efb"]

def hexDigitSet : Array Nat := readBoundaries hexDigitTable

/-- The boundaries of IDS Binary Operator. -/
def idsBinaryOperatorTable : String :=
  String.join
    ["9gw 9gy 9h0 9h8"]

def idsBinaryOperatorSet : Array Nat := readBoundaries idsBinaryOperatorTable

/-- The boundaries of IDS Trinary Operator. -/
def idsTrinaryOperatorTable : String :=
  String.join
    ["9gy 9h0"]

def idsTrinaryOperatorSet : Array Nat := readBoundaries idsTrinaryOperatorTable

/-- The boundaries of ID Continue. -/
def idContinueTable : String :=
  String.join
    ["1c 1m 1t 2j 2n 2o 2p 3f 4q 4r 51 52 53 54 56 57 5c 5z 60 6v 6w jm jq k2 kg kl ks kt ku kv lc ol ",
     "om oo oq ou ov ow p2 p7 p8 p9 pa pu pv s6 s7 w2 w3 w8 wa 10w 10x 11z 121 122 128 13d 13l 14u 14v ",
     "14w 14x 14z 150 152 153 154 15c 163 167 16b 174 17f 17k 19m 19q 1ck 1cl 1ct 1cv 1d5 1d6 1dp 1dr ",
     "1ds 1e8 1fv 1fx 1iq 1j4 1km 1kq 1kr 1kt 1ku 1kw 1m6 1mo 1ng 1nk 1nv 1o0 1oo 1op 1ov 1p4 1r6 1r7 ",
     "1us 1uu 1v4 1v5 1vo 1vp 1vx 1vz 1w1 1w3 1wp 1wq 1wx 1wy 1wz 1x2 1x6 1x8 1xh 1xj 1xl 1xn 1xr 1xz ",
     "1y0 1y4 1y6 1y7 1yc 1ye 1yq 1z0 1z1 1z2 1z3 1z5 1z8 1z9 1zf 1zj 1zl 1zn 209 20a 20h 20i 20k 20l ",
     "20n 20o 20q 20s 20t 20u 20z 213 215 217 21a 21d 21e 21l 21p 21q 21r 21y 22e 22p 22s 22t 232 233 ",
     "236 237 23t 23u 241 242 244 245 24a 24c 24m 24n 24q 24r 24u 24w 24x 25c 25g 25i 25s 261 268 269 ",
     "26c 26d 26l 26n 26p 26r 27d 27e 27l 27m 27o 27p 27u 27w 285 287 289 28b 28e 28l 28o 28s 28u 28v ",
     "290 292 29c 29d 29e 29u 29w 29x 2a3 2a6 2a9 2aa 2ae 2ah 2aj 2ak 2al 2am 2ao 2ar 2at 2aw 2az 2b2 ",
     "2be 2bi 2bn 2bq 2bt 2bu 2by 2c0 2c1 2c7 2c8 2cm 2cw 2dc 2dp 2dq 2dt 2du 2eh 2ei 2ey 2f0 2f9 2fa ",
     "2fd 2fe 2fi 2fp 2fr 2fs 2fv 2fx 2fy 2g0 2g4 2g6 2gg 2gw 2h0 2h1 2h9 2ha 2hd 2he 2i1 2i2 2ic 2id ",
     "2ii 2ik 2it 2iu 2ix 2iy 2j2 2j9 2jb 2jh 2jj 2jk 2jo 2jq 2k0 2k1 2k4 2kg 2kt 2ku 2kx 2ky 2md 2me ",
     "2mh 2mi 2mn 2ms 2mw 2n3 2n8 2na 2nk 2nu 2o0 2o1 2o4 2o5 2on 2oq 2pe 2pf 2po 2pp 2pq 2ps 2pz 2q2 ",
     "2q3 2q7 2qd 2qe 2qf 2qg 2qo 2qu 2r4 2r6 2r8 2rl 2t7 2tc 2tr 2ts 2u2 2v5 2v7 2v8 2v9 2va 2vf 2vg ",
     "2w4 2w5 2w6 2w7 2wu 2ww 2x1 2x2 2x3 2x4 2xb 2xc 2xm 2xo 2xs 2yo 2yp 2zc 2ze 2zk 2zu 305 306 307 ",
     "308 309 30a 30e 30o 30p 31p 31t 32d 32e 32w 32x 33x 346 347 35s 37u 380 3a6 3a8 3ba 3bb 3bc 3bh ",
     "3bi 3bk 3cr 3cs 3m1 3m2 3m6 3m8 3mf 3mg 3mh 3mi 3mm 3mo 3nt 3nu 3ny 3o0 3ox 3oy 3p2 3p4 3pb 3pc ",
     "3pd 3pe 3pi 3pk 3pz 3q0 3rl 3rm 3rq 3rs 3tn 3tp 3ts 3u1 3ua 3uo 3v4 3vk 3xy 3y0 3y6 3y9 4fh 4fj ",
     "4g0 4g1 4gr 4gw 4iz 4j2 4jd 4jk 4k6 4kf 4l1 4lc 4lw 4m8 4ml 4mm 4mp 4mq 4ms 4n4 4pg 4pj 4pk 4po ",
     "4pq 4ps 4q2 4qz 4r2 4r3 4re 4rk 4u1 4u8 4vf 4vk 4xi 4xs 4yn 4yo 4z0 4z4 4zg 4zq 50u 50w 511 51c ",
     "52k 52o 53e 53k 53v 54w 55o 55s 57j 57k 58d 58f 58q 58w 596 59j 59k 59s 5a6 5a7 5an 5c0 5e5 5e8 ",
     "5ei 5ez 5f8 5fk 5is 5j4 5ko 5kw 5l6 5l9 5mm 5mo 5mx 5n4 5ob 5od 5og 5ow 5oz 5p0 5q3 5q8 652 654 ",
     "65a 65c 66e 66g 66m 66o 66w 66x 66y 66z 670 671 672 673 67y 680 69h 69i 69p 69q 69r 69u 69x 69y ",
     "6a5 6a8 6ac 6ae 6ak 6ao 6b1 6b6 6b9 6ba 6bh 6db 6dd 6dw 6dx 6ep 6eq 6f3 6f4 6fk 6fx 6hc 6hp 6ht ",
     "6hu 6hx 6i9 6iq 6ir 6iv 6iw 6iy 6j8 6j9 6ja 6jc 6ji 6jo 6jp 6jq 6jr 6js 6jt 6ju 6ka 6kc 6kg 6kl ",
     "6kq 6ku 6kv 6lc 6mh 8ow 8v9 8vf 8vo 8w0 8x2 8x3 8x4 8x9 8xa 8xc 8yw 8z3 8z4 8zj 907 90g 90n 90o ",
     "90v 90w 913 914 91b 91c 91j 91k 91r 91s 91z 920 927 928 934 9hh 9hk 9i9 9io 9ip 9iu 9iw 9j1 9j5 ",
     "9lj 9ll 9ls 9lt 9ob 9oc 9og 9ol 9ps 9pt 9sf 9sw 9ts 9v4 9vk a9s fcw feo wi5 wk0 wla wlc wst wsw ",
     "wto wu8 wvk wvo wvy wvz wz6 x07 x0g x0i x3d x3f x57 x5c x5e x5f x5g x5h x5m x6a x7s x7w x7x x8g ",
     "x9w xa8 xc6 xcg xcq xcw xdk xdn xdo xdp xf2 xf4 xg4 xgg xh9 xhc xj5 xjj xju xk0 xkv xkw xmf xmo ",
     "xn2 xn4 xne xnk xo7 xoa xqb xqz xr2 xr4 xrk xrm xrr xs1 xs7 xs9 xsf xsh xsn xsw xt3 xt4 xtb xtc ",
     "xuj xuk xuy xv4 xyj xyk xym xyo xyy xz4 16lg 16ls 16mf 16mj 16nw 1d6o 1dgu 1dgw 1dju 1dkw 1dl3 ",
     "1dlf 1dlk 1dlp 1dm1 1dm2 1dmf 1dmg 1dml 1dmm 1dmn 1dmo 1dmq 1dmr 1dmt 1dmu 1dpu 1dqr 1e0u 1e1c ",
     "1e34 1e36 1e4o 1e5s 1e64 1e68 1e6o 1e74 1e7k 1e7n 1e7p 1e8d 1e8g 1e9c 1e9h 1e9i 1ed9 1eds 1ee2 ",
     "1ee9 1eez 1ef3 1ef4 1ef5 1efv 1eg6 1ein 1eiq 1eiw 1eiy 1ej4 1ej6 1ejc 1eje 1ejh 1ekg 1eks 1ekt ",
     "1elj 1elk 1em3 1em4 1em6 1em7 1emm 1emo 1en2 1eo0 1erf 1etc 1eut 1eyl 1eym 1f28 1f31 1f34 1f4h ",
     "1f4w 1f4x 1f5s 1f6o 1f71 1f7v 1f80 1f97 1f9c 1fa6 1fa8 1fb8 1fbc 1fbk 1fbl 1fbq 1fcw 1fha 1fhc ",
     "1fhm 1fhs 1fis 1fiw 1fjw 1fk0 1fl4 1flc 1fms 1fn4 1fnf 1fng 1fnv 1fnw 1fo3 1fo4 1fo6 1fo7 1foi ",
     "1foj 1foy 1foz 1fp6 1fp7 1fp9 1fr4 1fzr 1g00 1g0m 1g0w 1g14 1g1s 1g1y 1g1z 1g35 1g36 1g3f 1g5c ",
     "1g5i 1g5k 1g5l 1g5m 1g6u 1g6v 1g6x 1g70 1g71 1g73 1g7q 1g80 1g8n 1g8w 1g9r 1gbk 1gc3 1gc4 1gc6 ",
     "1gcg 1gd2 1gdc 1ge2 1gg0 1ghk 1ghq 1ghs 1gjk 1gjo 1gjp 1gjr 1gjw 1gk4 1gk5 1gk8 1gk9 1gl2 1gl4 ",
     "1gl7 1glb 1glc 1gm8 1gn1 1gn4 1gnx 1gow 1gp4 1gp5 1gpz 1gqo 1gs6 1gsg 1gt2 1gtc 1gtv 1gu8 1guq ",
     "1gxs 1gzt 1h1c 1h2r 1h34 1h4j 1h4w 1h60 1h68 1h6i 1hfk 1hgq 1hgr 1hgt 1hgw 1hgy 1hj1 1hjx 1hk7 ",
     "1hk8 1hkg 1hld 1hm8 1hmu 1ho0 1hol 1hpc 1hpz 1hq8 1hs7 1ht2 1hti 1htr 1hvf 1hvm 1hvn 1hw0 1hwp ",
     "1hww 1hx6 1hxc 1hyt 1hyu 1hz4 1hz8 1hzc 1hzk 1i0k 1i0m 1i0n 1i0w 1i2t 1i2x 1i31 1i32 1i3f 1i3g ",
     "1i3h 1i4g 1i4y 1i4z 1i60 1i66 1i6a 1i80 1i87 1i88 1i89 1i8a 1i8e 1i8f 1i8u 1i8v 1i95 1i9c 1iaz ",
     "1ib4 1ibe 1ibk 1ibo 1ibp 1ibx 1ibz 1ic1 1ic3 1icp 1icq 1icx 1icy 1id0 1id1 1id6 1id7 1idh 1idj ",
     "1idl 1idn 1idq 1ids 1idt 1idz 1ie0 1ie5 1iec 1iee 1iel 1ieo 1iet 1iio 1ikr 1ikw 1il6 1ila 1ile ",
     "1im8 1io6 1io7 1io8 1iog 1ioq 1itc 1iuu 1iuw 1iv5 1ivs 1ivy 1iww 1iyp 1iys 1iyt 1iz4 1ize 1j0g ",
     "1j21 1j28 1j2i 1j40 1j4r 1j4t 1j58 1j5c 1j5m 1j5s 1j5z 1jb4 1jcr 1jfk 1jhm 1ji7 1jif 1jih 1jii ",
     "1jik 1jis 1jit 1jiv 1jiw 1jjq 1jjr 1jjt 1jjv 1jk4 1jkg 1jkq 1jmo 1jmw 1jmy 1jo8 1joa 1joi 1joj ",
     "1jol 1jpc 1jr3 1jrb 1jrc 1jrk 1jtm 1jtp 1jtq 1ju8 1jw9 1k3k 1k3t 1k3u 1k53 1k54 1k5d 1k5s 1k62 ",
     "1k6q 1k7k 1k7m 1k88 1k89 1k8n 1kao 1kav 1kaw 1kay 1kaz 1kc7 1kca 1kcb 1kcc 1kce 1kcf 1kco 1kcw ",
     "1kd6 1kdc 1kdi 1kdj 1kdl 1kdm 1ken 1keo 1keq 1ker 1kex 1kf4 1kfe 1ko0 1kon 1kow 1kpd 1kpe 1kqj ",
     "1kqm 1kqr 1kr4 1kre 1kts 1ktt 1kw0 1llm 1log 1lrj 1ls0 1lxg 1nyo 1o1d 1o1s 1ovk 1ow0 1owm 1s00 ",
     "1sg7 1z40 1zjt 1zk0 1zkv 1zkw 1zl6 1zlc 1znj 1znk 1znu 1zo0 1zou 1zow 1zp1 1zpc 1zqv 1zr4 1zr8 ",
     "1zrk 1zru 1zs3 1zso 1zst 1ztc 20cg 20e8 20hs 20jv 20jz 20lk 20lr 20m8 20o0 20o2 20o3 20o5 20og ",
     "20oi 20ow 25fc 25fk 26dy 26f4 26fd 2dbk 2dbo 2dbp 2dbw 2dbx 2dbz 2dc0 2dk3 2dki 2dkj 2dlc 2dlf ",
     "2dlh 2dli 2dlw 2dm0 2dm8 2dx8 2fpc 2fsb 2fsg 2fst 2fsw 2ft5 2ftc 2ftm 2ftp 2ftr 2jgg 2jhq 2jhs ",
     "2jif 2jxh 2jxm 2jxp 2jxv 2jy3 2jyb 2jyd 2jyk 2jze 2jzi 2k3m 2k3p 2kg0 2kid 2kie 2kkd 2kke 2kkg ",
     "2kki 2kkj 2kkl 2kkn 2kkp 2kkt 2kku 2kl6 2kl7 2kl8 2kl9 2klg 2klh 2kna 2knb 2knf 2knh 2knp 2knq ",
     "2knx 2kny 2koq 2kor 2kov 2kow 2kp1 2kp2 2kp3 2kp6 2kpd 2kpe 2kyu 2kyw 2kzl 2kzm 2l0b 2l0c 2l17 ",
     "2l18 2l1x 2l1y 2l2t 2l2u 2l3j 2l3k 2l4f 2l4g 2l55 2l56 2l61 2l62 2l6r 2l6s 2l70 2l72 2l8g 2lmo ",
     "2lo7 2lob 2lpp 2lpx 2lpy 2lqc 2lqd 2lqz 2lr4 2lr5 2lrk 2mm8 2mn3 2mn9 2mnf 2mtc 2mtj 2mtk 2mu1 ",
     "2mu3 2mua 2mub 2mud 2mue 2muj 2muo 2mwe 2mxb 2mxc 2n0g 2n1p 2n1s 2n26 2n28 2n2i 2n2m 2n2n 2nbk ",
     "2ncf 2ncw 2nei 2nrk 2nsq 2odc 2odj 2odk 2odo 2odp 2odr 2ods 2oe7 2oe8 2ojp 2ok0 2ok7 2olc 2ong ",
     "2onk 2onu 2pkw 2pl0 2pl1 2pls 2plt 2plv 2plw 2plx 2plz 2pm0 2pm1 2pmb 2pmc 2pmg 2pmh 2pmi 2pmj ",
     "2pmk 2pmq 2pmr 2pmv 2pmw 2pmx 2pmy 2pmz 2pn0 2pn1 2pn4 2pn5 2pn7 2pn8 2pn9 2pnb 2pnc 2pnd 2pne ",
     "2pnf 2png 2pnh 2pni 2pnj 2pnk 2pnl 2pnn 2pno 2pnp 2pnr 2pnv 2pnw 2po3 2po4 2po8 2po9 2pod 2poe ",
     "2pof 2pog 2poq 2por 2pp8 2ppd 2ppg 2pph 2ppm 2ppn 2pq4 2sc0 2sca 2t4w 3q3k 3q4g 3tbu 3tc0 3ti6 ",
     "3ti8 3xya 3xyo 43q9 464g 46ji 47pc 4bij 4bio 4er4 jo5c joc0"]

def idContinueSet : Array Nat := readBoundaries idContinueTable

/-- The boundaries of ID Start. -/
def idStartTable : String :=
  String.join
    ["1t 2j 2p 3f 4q 4r 51 52 56 57 5c 5z 60 6v 6w jm jq k2 kg kl ks kt ku kv og ol om oo oq ou ov ow ",
     "p2 p3 p4 p7 p8 p9 pa pu pv s6 s7 w2 wa 10w 10x 11z 121 122 128 13d 15c 163 167 16b 17k 18r 19q ",
     "19s 19t 1ck 1cl 1cm 1d1 1d3 1da 1dc 1dm 1dp 1dr 1ds 1e8 1e9 1ea 1f4 1fx 1ie 1ip 1iq 1je 1kb 1kk ",
     "1km 1kq 1kr 1kw 1li 1lm 1ln 1lw 1lx 1m0 1m1 1mo 1nd 1nk 1nv 1o0 1oo 1op 1ov 1pc 1qi 1s4 1tm 1tp ",
     "1tq 1u8 1u9 1ug 1uq 1v5 1vl 1vp 1vx 1vz 1w1 1w3 1wp 1wq 1wx 1wy 1wz 1x2 1x6 1x9 1xa 1xq 1xr 1y4 ",
     "1y6 1y7 1ya 1yo 1yq 1z0 1z1 1z9 1zf 1zj 1zl 1zn 209 20a 20h 20i 20k 20l 20n 20o 20q 21l 21p 21q ",
     "21r 22a 22d 22t 232 233 236 237 23t 23u 241 242 244 245 24a 24d 24e 24w 24x 25c 25e 261 262 26d ",
     "26l 26n 26p 26r 27d 27e 27l 27m 27o 27p 27u 27x 27y 28s 28u 28v 28y 29d 29e 29v 29w 29x 2a3 2a6 ",
     "2a9 2aa 2ae 2ah 2aj 2ak 2al 2am 2ao 2ar 2at 2aw 2az 2b2 2be 2c0 2c1 2dh 2dp 2dq 2dt 2du 2eh 2ei ",
     "2ey 2f1 2f2 2fs 2fv 2fx 2fy 2g0 2g2 2gw 2gx 2h1 2h9 2ha 2hd 2he 2i1 2i2 2ic 2id 2ii 2il 2im 2jh ",
     "2jj 2jk 2jm 2k1 2k3 2kk 2kt 2ku 2kx 2ky 2m3 2m5 2m6 2mm 2mn 2ms 2mv 2n3 2n6 2nu 2o0 2o5 2on 2oq ",
     "2pe 2pf 2po 2pp 2pq 2ps 2pz 2rl 2sx 2sy 2t0 2tc 2tj 2v5 2v7 2v8 2v9 2va 2vf 2vg 2w4 2w5 2w6 2w7 ",
     "2wh 2wi 2wk 2wt 2wu 2ww 2x1 2x2 2x3 2xo 2xs 2yo 2yp 30g 30o 30p 31p 32g 32l 35s 36z 37j 37k 380 ",
     "386 38a 38e 38h 38i 38l 38n 38u 38x 391 39e 39q 39r 3a8 3ba 3bb 3bc 3bh 3bi 3bk 3cr 3cs 3m1 3m2 ",
     "3m6 3m8 3mf 3mg 3mh 3mi 3mm 3mo 3nt 3nu 3ny 3o0 3ox 3oy 3p2 3p4 3pb 3pc 3pd 3pe 3pi 3pk 3pz 3q0 ",
     "3rl 3rm 3rq 3rs 3tn 3uo 3v4 3vk 3xy 3y0 3y6 3y9 4fh 4fj 4g0 4g1 4gr 4gw 4iz 4j2 4jd 4jk 4k2 4kf ",
     "4ky 4lc 4lu 4m8 4ml 4mm 4mp 4n4 4ok 4pj 4pk 4po 4pp 4rk 4u1 4u8 4vd 4ve 4vf 4vk 4xi 4xs 4yn 500 ",
     "50u 50w 511 51c 52k 52o 53e 54w 55j 55s 579 59j 59k 5c5 5dg 5dx 5e5 5fn 5gh 5gu 5gw 5h6 5ie 5j4 ",
     "5k4 5l9 5lc 5lm 5mm 5mo 5mx 5n4 5ob 5od 5og 5pl 5pp 5pq 5pw 5px 5pz 5q2 5q3 5q8 5vk 5xc 652 654 ",
     "65a 65c 66e 66g 66m 66o 66w 66x 66y 66z 670 671 672 673 67y 680 69h 69i 69p 69q 69r 69u 69x 69y ",
     "6a5 6a8 6ac 6ae 6ak 6ao 6b1 6b6 6b9 6ba 6bh 6ep 6eq 6f3 6f4 6fk 6fx 6iq 6ir 6iv 6iw 6iy 6j8 6j9 ",
     "6ja 6jc 6ji 6jo 6jp 6jq 6jr 6js 6jt 6ju 6ka 6kc 6kg 6kl 6kq 6ku 6kv 6lc 6mh 8ow 8v9 8vf 8vj 8vm ",
     "8vo 8w0 8x2 8x3 8x4 8x9 8xa 8xc 8yw 8z3 8z4 8zk 907 90g 90n 90o 90v 90w 913 914 91b 91c 91j 91k ",
     "91r 91s 91z 920 927 9hh 9hk 9i9 9ii 9ip 9iu 9iw 9j1 9j5 9lj 9ln 9ls 9lt 9ob 9oc 9og 9ol 9ps 9pt ",
     "9sf 9sw 9ts 9v4 9vk a9s fcw feo wi5 wk0 wla wlc wst wsw wtc wtm wto wu8 wvj wvz wwu www wz4 x07 ",
     "x0g x0i x3d x3f x57 x5c x5e x5f x5g x5h x5m x6a x6q x6r x6u x6v x6z x70 x7n x8g x9w xaa xbo xde ",
     "xdk xdn xdo xdp xdr xe2 xeu xf4 xfr xgg xh9 xhg xir xjj xjk xk0 xk5 xk6 xkg xkq xkv xkw xm1 xmo ",
     "xmr xms xn0 xnk xo7 xoa xob xoe xps xpt xpu xpx xpz xq1 xq6 xq8 xq9 xqa xqb xqz xr2 xr4 xrf xrm ",
     "xrp xs1 xs7 xs9 xsf xsh xsn xsw xt3 xt4 xtb xtc xuj xuk xuy xv4 xyb xz4 16lg 16ls 16mf 16mj 16nw ",
     "1d6o 1dgu 1dgw 1dju 1dkw 1dl3 1dlf 1dlk 1dlp 1dlq 1dlr 1dm1 1dm2 1dmf 1dmg 1dml 1dmm 1dmn 1dmo ",
     "1dmq 1dmr 1dmt 1dmu 1dpu 1dqr 1e0u 1e1c 1e34 1e36 1e4o 1e5s 1e64 1e9c 1e9h 1e9i 1ed9 1ee9 1eez ",
     "1ef5 1efv 1eg6 1ein 1eiq 1eiw 1eiy 1ej4 1ej6 1ejc 1eje 1ejh 1ekg 1eks 1ekt 1elj 1elk 1em3 1em4 ",
     "1em6 1em7 1emm 1emo 1en2 1eo0 1erf 1etc 1eut 1f28 1f31 1f34 1f4h 1f5s 1f6o 1f71 1f7v 1f80 1f92 ",
     "1f9c 1fa6 1fa8 1fb8 1fbc 1fbk 1fbl 1fbq 1fcw 1fha 1fhs 1fis 1fiw 1fjw 1fk0 1fl4 1flc 1fms 1fn4 ",
     "1fnf 1fng 1fnv 1fnw 1fo3 1fo4 1fo6 1fo7 1foi 1foj 1foy 1foz 1fp6 1fp7 1fp9 1fr4 1fzr 1g00 1g0m ",
     "1g0w 1g14 1g1s 1g1y 1g1z 1g35 1g36 1g3f 1g5c 1g5i 1g5k 1g5l 1g5m 1g6u 1g6v 1g6x 1g70 1g71 1g73 ",
     "1g7q 1g80 1g8n 1g8w 1g9r 1gbk 1gc3 1gc4 1gc6 1gcg 1gd2 1gdc 1ge2 1gg0 1ghk 1ghq 1ghs 1gjk 1gjl ",
     "1gk0 1gk4 1gk5 1gk8 1gk9 1gl2 1gm8 1gn1 1gn4 1gnx 1gow 1gp4 1gp5 1gpx 1gqo 1gs6 1gsg 1gt2 1gtc ",
     "1gtv 1gu8 1guq 1gxs 1gzt 1h1c 1h2r 1h34 1h4j 1h4w 1h5w 1hfk 1hgq 1hgw 1hgy 1hj4 1hjx 1hk7 1hk8 ",
     "1hkg 1hl2 1hm8 1hmq 1ho0 1hol 1hpc 1hpz 1hqb 1hrs 1htd 1htf 1hth 1hti 1htv 1hv4 1hw0 1hwp 1hxf ",
     "1hyf 1hz8 1hz9 1hzb 1hzc 1hzk 1i0j 1i0m 1i0n 1i0z 1i2b 1i2p 1i2t 1i3e 1i3f 1i3g 1i3h 1i4g 1i4y ",
     "1i4z 1i5o 1i67 1i69 1i80 1i87 1i88 1i89 1i8a 1i8e 1i8f 1i8u 1i8v 1i95 1i9c 1ian 1ibp 1ibx 1ibz ",
     "1ic1 1ic3 1icp 1icq 1icx 1icy 1id0 1id1 1id6 1id9 1ida 1ids 1idt 1ie5 1iea 1iio 1ik5 1ikn 1ikr ",
     "1ilb 1ile 1im8 1ink 1io4 1io6 1io7 1io8 1itc 1iun 1ivs 1ivw 1iww 1iy8 1iys 1iyt 1j0g 1j1n 1j20 ",
     "1j21 1j40 1j4r 1j5s 1j5z 1jb4 1jcc 1jfk 1jhc 1ji7 1jif 1jih 1jii 1jik 1jis 1jit 1jiv 1jiw 1jjk ",
     "1jjz 1jk0 1jk1 1jk2 1jmo 1jmw 1jmy 1jo1 1joh 1joi 1joj 1jok 1jpc 1jpd 1jpn 1jqr 1jqy 1jqz 1jrk ",
     "1jrl 1jrw 1jt6 1jtp 1jtq 1ju8 1jw9 1k3k 1k3t 1k3u 1k4v 1k5c 1k5d 1k6q 1k7k 1kao 1kav 1kaw 1kay ",
     "1kaz 1kc1 1kcm 1kcn 1kdc 1kdi 1kdj 1kdl 1kdm 1kei 1kew 1kex 1ko0 1koj 1koy 1koz 1kp0 1kpd 1kpe ",
     "1kqc 1kts 1ktt 1kw0 1llm 1log 1lrj 1ls0 1lxg 1nyo 1o1d 1o1s 1ovk 1ow1 1ow7 1s00 1sg7 1z40 1zjt ",
     "1zk0 1zkv 1zlc 1znj 1zo0 1zou 1zpc 1zqo 1zr4 1zr8 1zs3 1zso 1zst 1ztc 20cg 20e8 20hs 20jv 20k0 ",
     "20k1 20lv 20m8 20o0 20o2 20o3 20o4 20ow 25fc 25fk 26dy 26f4 26fd 2dbk 2dbo 2dbp 2dbw 2dbx 2dbz ",
     "2dc0 2dk3 2dki 2dkj 2dlc 2dlf 2dlh 2dli 2dlw 2dm0 2dm8 2dx8 2fpc 2fsb 2fsg 2fst 2fsw 2ft5 2ftc ",
     "2ftm 2kg0 2kid 2kie 2kkd 2kke 2kkg 2kki 2kkj 2kkl 2kkn 2kkp 2kkt 2kku 2kl6 2kl7 2kl8 2kl9 2klg ",
     "2klh 2kna 2knb 2knf 2knh 2knp 2knq 2knx 2kny 2koq 2kor 2kov 2kow 2kp1 2kp2 2kp3 2kp6 2kpd 2kpe ",
     "2kyu 2kyw 2kzl 2kzm 2l0b 2l0c 2l17 2l18 2l1x 2l1y 2l2t 2l2u 2l3j 2l3k 2l4f 2l4g 2l55 2l56 2l61 ",
     "2l62 2l6r 2l6s 2l70 2mm8 2mn3 2mn9 2mnf 2muo 2mwe 2n0g 2n1p 2n1z 2n26 2n2m 2n2n 2nbk 2nce 2ncw ",
     "2ne4 2nrk 2nsc 2odc 2odj 2odk 2odo 2odp 2odr 2ods 2oe7 2oe8 2ojp 2olc 2on8 2onf 2ong 2pkw 2pl0 ",
     "2pl1 2pls 2plt 2plv 2plw 2plx 2plz 2pm0 2pm1 2pmb 2pmc 2pmg 2pmh 2pmi 2pmj 2pmk 2pmq 2pmr 2pmv ",
     "2pmw 2pmx 2pmy 2pmz 2pn0 2pn1 2pn4 2pn5 2pn7 2pn8 2pn9 2pnb 2pnc 2pnd 2pne 2pnf 2png 2pnh 2pni ",
     "2pnj 2pnk 2pnl 2pnn 2pno 2pnp 2pnr 2pnv 2pnw 2po3 2po4 2po8 2po9 2pod 2poe 2pof 2pog 2poq 2por ",
     "2pp8 2ppd 2ppg 2pph 2ppm 2ppn 2pq4 2t4w 3q3k 3q4g 3tbu 3tc0 3ti6 3ti8 3xya 3xyo 43q9 464g 46ji ",
     "47pc 4bij 4bio 4er4"]

def idStartSet : Array Nat := readBoundaries idStartTable

/-- The boundaries of Ideographic. -/
def ideographicTable : String :=
  String.join
    ["9hi 9hk 9i9 9ii 9iw 9iz a9s fcw feo vls 1d6o 1dgu 1dgw 1dju 20o4 20o5 20ow 25fc 25fk 26dy 26f4 ",
     "26fd 2dm8 2dx8 2t4w 3q3k 3q4g 3tbu 3tc0 3ti6 3ti8 3xya 3xyo 43q9 464g 46ji 47pc 4bij 4bio 4er4"]

def ideographicSet : Array Nat := readBoundaries ideographicTable

/-- The boundaries of Join Control. -/
def joinControlTable : String :=
  String.join
    ["6bw 6by"]

def joinControlSet : Array Nat := readBoundaries joinControlTable

/-- The boundaries of Logical Order Exception. -/
def logicalOrderExceptionTable : String :=
  String.join
    ["2tc 2th 2ww 2x1 52t 52w 52y 52z xpx xpz xq1 xq2 xq3 xq5"]

def logicalOrderExceptionSet : Array Nat := readBoundaries logicalOrderExceptionTable

/-- The boundaries of Lowercase. -/
def lowercaseTable : String :=
  String.join
    ["2p 3f 4q 4r 51 52 56 57 67 6v 6w 74 75 76 77 78 79 7a 7b 7c 7d 7e 7f 7g 7h 7i 7j 7k 7l 7m 7n 7o ",
     "7p 7q 7r 7s 7t 7u 7v 7w 7x 7y 7z 80 81 82 83 84 85 86 87 88 89 8a 8b 8c 8d 8e 8f 8g 8h 8i 8j 8k ",
     "8l 8m 8n 8p 8q 8r 8s 8t 8u 8v 8w 8x 8y 8z 90 91 92 93 94 96 97 98 99 9a 9b 9c 9d 9e 9f 9g 9h 9i ",
     "9j 9k 9l 9m 9n 9o 9p 9q 9r 9s 9t 9u 9v 9w 9x 9y 9z a0 a1 a2 a3 a4 a5 a6 a7 a8 a9 aa ab ac ad ae ",
     "af ag ai aj ak al am ap ar as at au aw ax b0 b2 b6 b7 b9 ba bd bg bi bj bl bm bn bo bp bq bs bt ",
     "bu bw bx by c0 c1 c4 c5 c6 c7 c9 cb cd cg cm cn cp cq cs ct cu cv cw cx cy cz d0 d1 d2 d3 d4 d5 ",
     "d6 d7 d8 da db dc dd de df dg dh di dj dk dl dm dn do dp dq dr dt dv dw dx dy e1 e2 e3 e4 e5 e6 ",
     "e7 e8 e9 ea eb ec ed ee ef eg eh ei ej ek el em en eo ep eq er es et eu ev ew ex ey ez f0 f1 f2 ",
     "f3 f4 f5 f6 f7 f8 f9 fa fb fc fd fe ff fg fh fi fj fk fl fm fn fu fw fx fz g1 g2 g3 g7 g8 g9 ga ",
     "gb gc gd ge gf ic id jd jk jm kg kl n9 na oh oi oj ok on oo oq ou pc pd q4 r3 r4 r6 r9 rc rd re ",
     "rf rg rh ri rj rk rl rm rn ro rp rq rr rs rt ru rv rw rx ry rz s4 s5 s6 s8 s9 sb sd ts v4 v5 v6 ",
     "v7 v8 v9 va vb vc vd ve vf vg vh vi vj vk vl vm vn vo vp vq vr vs vt vu vv vw vx vy vz w0 w1 w2 ",
     "wb wc wd we wf wg wh wi wj wk wl wm wn wo wp wq wr ws wt wu wv ww wx wy wz x0 x1 x2 x3 x4 x5 x6 ",
     "x7 x8 x9 xa xb xc xd xe xf xg xh xi xj xk xl xm xn xo xp xq xr xs xu xv xw xx xy xz y0 y1 y2 y3 ",
     "y4 y5 y6 y8 y9 ya yb yc yd ye yf yg yh yi yj yk yl ym yn yo yp yq yr ys yt yu yv yw yx yy yz z0 ",
     "z1 z2 z3 z4 z5 z6 z7 z8 z9 za zb zc zd ze zf zg zh zi zj zk zl zm zn zo zp zq zr zs zt zu zv zw ",
     "zx zy zz 100 101 102 103 104 105 106 107 108 109 10a 10b 10c 10d 10e 10f 10g 10h 10i 10j 10k 10l ",
     "10m 10n 10o 10p 10q 10r 10s 10t 10u 10v 10w 128 13d 3bk 3cr 3cs 3cw 3y0 3y6 5mo 5mx 5q8 5vk 5xd ",
     "5xe 5xf 5xg 5xh 5xi 5xj 5xk 5xl 5xm 5xn 5xo 5xp 5xq 5xr 5xs 5xt 5xu 5xv 5xw 5xx 5xy 5xz 5y0 5y1 ",
     "5y2 5y3 5y4 5y5 5y6 5y7 5y8 5y9 5ya 5yb 5yc 5yd 5ye 5yf 5yg 5yh 5yi 5yj 5yk 5yl 5ym 5yn 5yo 5yp ",
     "5yq 5yr 5ys 5yt 5yu 5yv 5yw 5yx 5yy 5yz 5z0 5z1 5z2 5z3 5z4 5z5 5z6 5z7 5z8 5z9 5za 5zb 5zc 5zd ",
     "5ze 5zf 5zg 5zh 5zi 5zj 5zk 5zl 5zm 5zn 5zo 5zp 5zq 5zr 5zs 5zt 5zu 5zv 5zw 5zx 5zy 5zz 600 601 ",
     "602 603 604 605 606 607 608 609 60a 60b 60c 60d 60e 60f 60g 60h 60i 60j 60k 60l 60m 60n 60o 60p ",
     "60q 60r 60s 60t 60u 60v 60w 60x 60y 60z 610 611 612 613 614 615 616 617 618 619 61a 61b 61c 61d ",
     "61e 61f 61g 61h 61q 61r 61s 61t 61u 61v 61w 61x 61y 61z 620 621 622 623 624 625 626 627 628 629 ",
     "62a 62b 62c 62d 62e 62f 62g 62h 62i 62j 62k 62l 62m 62n 62o 62p 62q 62r 62s 62t 62u 62v 62w 62x ",
     "62y 62z 630 631 632 633 634 635 636 637 638 639 63a 63b 63c 63d 63e 63f 63g 63h 63i 63j 63k 63l ",
     "63m 63n 63o 63p 63q 63r 63s 63t 63u 63v 63w 63x 63y 63z 640 641 642 643 644 645 646 647 648 649 ",
     "64a 64b 64c 64d 64e 64f 64o 64w 652 65c 65k 65s 660 668 66e 66o 66w 674 67c 67k 67y 680 688 68g ",
     "68o 68w 694 69c 69h 69i 69k 69q 69r 69u 69x 69y 6a0 6a8 6ac 6ae 6ag 6ao 6aw 6b6 6b9 6ba 6bc 6ep ",
     "6eq 6f3 6f4 6fk 6fx 6iy 6iz 6j2 6j4 6j7 6j8 6jz 6k0 6k4 6k5 6k9 6ka 6kc 6ke 6km 6kq 6ku 6kv 6ls ",
     "6m8 6mc 6md 79s 7ai 8q8 8rk 8rl 8rm 8rp 8rr 8rs 8rt 8ru 8rv 8rw 8rx 8s1 8s2 8s3 8s5 8s6 8se 8sh ",
     "8si 8sj 8sk 8sl 8sm 8sn 8so 8sp 8sq 8sr 8ss 8st 8su 8sv 8sw 8sx 8sy 8sz 8t0 8t1 8t2 8t3 8t4 8t5 ",
     "8t6 8t7 8t8 8t9 8ta 8tb 8tc 8td 8te 8tf 8tg 8th 8ti 8tj 8tk 8tl 8tm 8tn 8to 8tp 8tq 8tr 8ts 8tt ",
     "8tu 8tv 8tw 8tx 8ty 8tz 8u0 8u1 8u2 8u3 8u4 8u5 8u6 8u7 8u8 8u9 8ua 8ub 8uc 8ud 8ue 8uf 8ug 8uh ",
     "8ui 8uj 8uk 8ul 8um 8un 8uo 8up 8uq 8ur 8us 8ut 8uu 8uv 8uw 8ux 8uy 8uz 8v0 8v1 8v2 8v3 8v4 8v5 ",
     "8v6 8v7 8v9 8vg 8vh 8vi 8vj 8vn 8vo 8w0 8x2 8x3 8x4 8x9 8xa wu9 wua wub wuc wud wue wuf wug wuh ",
     "wui wuj wuk wul wum wun wuo wup wuq wur wus wut wuu wuv wuw wux wuy wuz wv0 wv1 wv2 wv3 wv4 wv5 ",
     "wv6 wv7 wv8 wv9 wva wvb wvc wvd wve wvf wvg wvh wvi ww1 ww2 ww3 ww4 ww5 ww6 ww7 ww8 ww9 wwa wwb ",
     "wwc wwd wwe wwf wwg wwh wwi wwj wwk wwl wwm wwn wwo wwp wwq wwr wwu x0j x0k x0l x0m x0n x0o x0p ",
     "x0q x0r x0s x0t x0u x0v x0y x0z x10 x11 x12 x13 x14 x15 x16 x17 x18 x19 x1a x1b x1c x1d x1e x1f ",
     "x1g x1h x1i x1j x1k x1l x1m x1n x1o x1p x1q x1r x1s x1t x1u x1v x1w x1x x1y x1z x20 x21 x22 x23 ",
     "x24 x25 x26 x27 x28 x29 x2a x2b x2c x2d x2e x2f x2g x2h x2i x2j x2k x2l x2m x2n x2x x2y x2z x30 ",
     "x31 x33 x34 x35 x36 x37 x38 x39 x3a x3b x3c x3g x3h x3i x3j x3l x3m x3n x3q x3r x3s x3t x3u x3v ",
     "x3w x3x x3y x3z x40 x41 x42 x43 x44 x45 x46 x47 x48 x49 x4a x4f x4g x4l x4m x4n x4o x4p x4q x4r ",
     "x4s x4t x4u x4v x4w x4x x4y x4z x50 x54 x55 x56 x57 x5d x5e x5f x5g x5h x5i x5j x5k x5l x5m x6a ",
     "x6d x6e x6f x6g x6j xtc xuj xuk xuy xv4 xxc 1dkw 1dl3 1dlf 1dlk 1ef5 1efv 1fe0 1ff4 1fiw 1fjw ",
     "1fo7 1foi 1foj 1foy 1foz 1fp6 1fp7 1fp9 1g1s 1g1t 1g1v 1g1y 1g1z 1g35 1g36 1g3f 1h34 1h4j 1jgg ",
     "1jhc 20dc 20e8 2kgq 2khg 2ki6 2kid 2kie 2kiw 2kjm 2kkc 2kl2 2kl6 2kl7 2kl8 2kl9 2klg 2klh 2kls ",
     "2kmi 2kn8 2kny 2koo 2kpe 2kq4 2kqu 2krk 2ksa 2kt0 2ktq 2kug 2kv6 2kvw 2kwm 2kxc 2ky2 2kyu 2kzm ",
     "2l0b 2l0c 2l0i 2l18 2l1x 2l1y 2l24 2l2u 2l3j 2l3k 2l3q 2l4g 2l55 2l56 2l5c 2l62 2l6r 2l6s 2l6y ",
     "2l6z 2l70 2mm8 2mmi 2mmj 2mn3 2mn9 2mnf 2muo 2mwe 2oma 2on8"]

def lowercaseSet : Array Nat := readBoundaries lowercaseTable

/-- The boundaries of Math. -/
def mathTable : String :=
  String.join
    ["17 18 1o 1r 2m 2n 3g 3h 3i 3j 4s 4t 4x 4y 5z 60 6v 6w r4 r7 r9 ra s0 s2 s4 s7 16u 16x 6c6 6c7 ",
     "6cy 6d1 6dc 6dd 6dg 6dh 6du 6dv 6e9 6ed 6ey 6f3 6fe 6fj 6hc 6hp 6ht 6hu 6hx 6hz 6i3 6i8 6iq 6ir ",
     "6iv 6iw 6iy 6j8 6j9 6ja 6jc 6ji 6jo 6jp 6js 6ju 6jw 6jy 6jz 6k2 6k3 6k9 6kc 6kq 6kr 6ks 6mo 6nc ",
     "6nd 6nj 6nk 6nm 6nq 6ns 6nw 6os 6ot 6ou 6p0 6p2 6pg 6ww 6x4 6x8 6xs 6xu 70c 70d 717 71y 71z 720 ",
     "72o 72p 730 737 7fk 7fm 7fy 7g8 7gc 7gi 7gm 7go 7gq 7gs 7gv 7h0 7he 7hf 7hg 7hh 7hj 7hp 7i0 7i8 ",
     "7id 7if 7k0 7k1 7k2 7k3 7kw 7l0 7l9 7lc 7uo 7wg 83k 8hs 8j4 8jp 8jr 8jx 1dm1 1dm2 1e8x 1e93 1e94 ",
     "1e95 1edn 1edo 1ee4 1ee7 1ef0 1ef1 1ef2 1ef3 1efw 1efx 1efy 1efz 1ejm 1ejn 1ejt 1ejx 2kg0 2kid ",
     "2kie 2kkd 2kke 2kkg 2kki 2kkj 2kkl 2kkn 2kkp 2kkt 2kku 2kl6 2kl7 2kl8 2kl9 2klg 2klh 2kna 2knb ",
     "2knf 2knh 2knp 2knq 2knx 2kny 2koq 2kor 2kov 2kow 2kp1 2kp2 2kp3 2kp6 2kpd 2kpe 2kyu 2kyw 2l70 ",
     "2l72 2l8g 2pkw 2pl0 2pl1 2pls 2plt 2plv 2plw 2plx 2plz 2pm0 2pm1 2pmb 2pmc 2pmg 2pmh 2pmi 2pmj ",
     "2pmk 2pmq 2pmr 2pmv 2pmw 2pmx 2pmy 2pmz 2pn0 2pn1 2pn4 2pn5 2pn7 2pn8 2pn9 2pnb 2pnc 2pnd 2pne ",
     "2pnf 2png 2pnh 2pni 2pnj 2pnk 2pnl 2pnn 2pno 2pnp 2pnr 2pnv 2pnw 2po3 2po4 2po8 2po9 2pod 2poe ",
     "2pof 2pog 2poq 2por 2pp8 2ppd 2ppg 2pph 2ppm 2ppn 2pq4 2prk 2prm"]

def mathSet : Array Nat := readBoundaries mathTable

/-- The boundaries of Noncharacter Code Point. -/
def noncharacterCodePointTable : String :=
  String.join
    ["1e4w 1e5s 1eke 1ekg 2t4u 2t4w 47pa 47pc 5m9q 5m9s 70u6 70u8 8fem 8feo 9tz2 9tz4 b8ji b8jk cn3y ",
     "cn40 e1oe e1og fg8u fg8w guta gutc i9dq i9ds jny6 jny8 l2im l2io mh32 mh34 nvni nvnk"]

def noncharacterCodePointSet : Array Nat := readBoundaries noncharacterCodePointTable

/-- The boundaries of Pattern Syntax. -/
def patternSyntaxTable : String :=
  String.join
    ["x 1c 1m 1t 2j 2n 2o 2p 3f 3j 4h 4o 4p 4q 4r 4t 4u 4v 4w 4y 52 53 57 58 5b 5c 5z 60 6v 6w 6c0 6co ",
     "6cw 6db 6dd 6dw 6dx 6e7 6mo 76o 7b4 7sm 7tg 8ow 934 96o 9hd 9hg 9hk 9i9 9io 9ip 1e0u 1e0w 1e85 ",
     "1e87"]

def patternSyntaxSet : Array Nat := readBoundaries patternSyntaxTable

/-- The boundaries of Pattern White Space. -/
def patternWhiteSpaceTable : String :=
  String.join
    ["9 e w x 3p 3q 6by 6c0 6co 6cq"]

def patternWhiteSpaceSet : Array Nat := readBoundaries patternWhiteSpaceTable

/-- The boundaries of Prepended Concatenation Mark. -/
def prependedConcatenationMarkTable : String :=
  String.join
    ["16o 16u 1ct 1cu 1e7 1e8 1ow 1oy 1r6 1r7 1hvh 1hvi 1hvx 1hvy"]

def prependedConcatenationMarkSet : Array Nat := readBoundaries prependedConcatenationMarkTable

/-- The boundaries of Quotation Mark. -/
def quotationMarkTable : String :=
  String.join
    ["y z 13 14 4r 4s 57 58 6c8 6cg 6d5 6d7 94y 94z 9ho 9hs 9i5 9i8 1e81 1e85 1ede 1edf 1edj 1edk 1eg2 ",
     "1eg4"]

def quotationMarkSet : Array Nat := readBoundaries quotationMarkTable

/-- The boundaries of Radical. -/
def radicalTable : String :=
  String.join
    ["96o 97e 97f 99w 9a8 9g6"]

def radicalSet : Array Nat := readBoundaries radicalTable

/-- The boundaries of Regional Indicator. -/
def regionalIndicatorTable : String :=
  String.join
    ["2qcm 2qdc"]

def regionalIndicatorSet : Array Nat := readBoundaries regionalIndicatorTable

/-- The boundaries of Sentence Terminal. -/
def sentenceTerminalTable : String :=
  String.join
    ["x y 1a 1b 1r 1s 13d 13e 17h 17k 1ck 1cl 1ds 1dv 1kp 1kq 1mf 1mg 1mh 1mi 1ml 1mn 1us 1uu 37u 37w ",
     "3tu 3tv 3tz 3u1 4fi 4fj 4l1 4l3 4qr 4qs 4qx 4qy 4zo 4zq 59k 59o 5ei 5ek 5em 5eo 5fh 5fj 5kr 5kt ",
     "5mm 5mo 6d8 6da 6dj 6dm 94e 94f 94s 94t 95f 95h 9he 9hf wlb wlc wsu wsw wz7 wz8 wzb wzc x9y xa0 ",
     "xce xcg xf3 xf4 xjc xje xnh xnk xrk xrm xyj xyk 1e8i 1e8j 1e8m 1e8o 1edd 1ede 1edq 1edr 1ee7 ",
     "1ee8 1eg1 1eg2 1gly 1gm0 1hlh 1hlm 1hmu 1hmy 1hs7 1hs9 1hvi 1hvm 1hz5 1hz8 1i2t 1i2v 1i31 1i32 ",
     "1i3i 1i3k 1i60 1i62 1i63 1i65 1i95 1i96 1ikr 1ikt 1iv6 1iv8 1ivd 1ivs 1iyp 1iyr 1j5o 1j5r 1jk4 ",
     "1jk5 1jk6 1jk7 1jr6 1jr8 1jtn 1jtp 1k5d 1k5f 1kon 1kop 1kqr 1kqt 1zla 1zlc 1zp1 1zp2 1zqv 1zqx ",
     "1zr8 1zr9 20ew 20ex 2ftr 2fts 2lqg 2lqh"]

def sentenceTerminalSet : Array Nat := readBoundaries sentenceTerminalTable

/-- The boundaries of Soft Dotted. -/
def softDottedTable : String :=
  String.join
    ["2x 2z 8f 8g g9 ga h4 h5 il im j6 j7 s3 s4 uu uv uw ux 5sy 5sz 5ue 5uf 5us 5ut 5uw 5ux 5yl 5ym ",
     "62z 630 6ep 6eq 6ko 6kq 8sc 8sd 2kgy 2kh0 2kie 2kig 2kju 2kjw 2kla 2klc 2kmq 2kms 2ko6 2ko8 2kpm ",
     "2kpo 2kr2 2kr4 2ksi 2ksk 2kty 2ku0 2kve 2kvg 2kwu 2kww 2kya 2kyc 2mmy 2mmz 2mvg 2mvi 2mw8 2mw9"]

def softDottedSet : Array Nat := readBoundaries softDottedTable

/-- The boundaries of Terminal Punctuation. -/
def terminalPunctuationTable : String :=
  String.join
    ["x y 18 19 1a 1b 1m 1o 1r 1s ou ov p3 p4 13d 13e 14z 150 170 171 17f 17g 17h 17k 1ck 1cl 1ds 1e3 ",
     "1e4 1e5 1ko 1kq 1m8 1mn 1ni 1nj 1us 1uu 2u2 2u4 2yw 2yx 2z1 2z7 37u 37w 3tt 3u1 4fi 4fj 4iz 4j2 ",
     "4l1 4l3 4pg 4pj 4pm 4pn 4qq 4qu 4qw 4qy 4zo 4zq 59k 59o 5ei 5ek 5el 5eo 5fh 5fj 5kr 5kw 5mm 5mo ",
     "6d8 6da 6dj 6dm 94e 94f 94s 94t 94x 94y 958 959 95a 95c 95f 95h 9hd 9hf wla wlc wst wsw wz7 wzc ",
     "x9y xa0 xce xcg xf3 xf4 xjb xje xnh xnk xr3 xr4 xrk xrm xyj xyk 1e8g 1e8j 1e8k 1e8o 1edd 1ede ",
     "1edo 1edp 1edq 1edr 1ee2 1ee4 1ee7 1ee8 1eg1 1eg2 1eg4 1eg5 1fa7 1fa8 1fbk 1fbl 1g7r 1g7s 1gdb ",
     "1gdc 1gly 1gm0 1gq8 1gqe 1gsa 1gsg 1gux 1gv1 1hlh 1hlm 1hmu 1hmy 1hs7 1hse 1hvi 1hvm 1hz5 1hz8 ",
     "1i2t 1i2v 1i31 1i32 1i3i 1i3k 1i60 1i65 1i95 1i96 1ikr 1iku 1il6 1il8 1iv6 1iva 1ivd 1ivs 1iyp ",
     "1iyr 1j5o 1j5r 1jk4 1jk5 1jk6 1jk7 1jr6 1jr8 1jtn 1jtp 1jtt 1jtv 1k5d 1k5g 1k6p 1k6q 1kon 1kop ",
     "1kqr 1kqt 1lrk 1lrp 1zla 1zlc 1zp1 1zp2 1zqv 1zqy 1zr8 1zr9 20ev 20ex 2ftr 2fts 2lqf 2lqj"]

def terminalPunctuationSet : Array Nat := readBoundaries terminalPunctuationTable

/-- The boundaries of Unified Ideograph. -/
def unifiedIdeographTable : String :=
  String.join
    ["a9s fcw feo vls 1de6 1de8 1de9 1dea 1deb 1ded 1den 1deo 1dep 1deq 1der 1det 1dev 1dey 2t4w 3q3k ",
     "3q4g 3tbu 3tc0 3ti6 3ti8 3xya 3xyo 43q9 47pc 4bij 4bio 4er4"]

def unifiedIdeographSet : Array Nat := readBoundaries unifiedIdeographTable

/-- The boundaries of Uppercase. -/
def uppercaseTable : String :=
  String.join
    ["1t 2j 5c 5z 60 67 74 75 76 77 78 79 7a 7b 7c 7d 7e 7f 7g 7h 7i 7j 7k 7l 7m 7n 7o 7p 7q 7r 7s 7t ",
     "7u 7v 7w 7x 7y 7z 80 81 82 83 84 85 86 87 88 89 8a 8b 8c 8d 8e 8f 8g 8h 8i 8j 8k 8l 8m 8n 8p 8q ",
     "8r 8s 8t 8u 8v 8w 8x 8y 8z 90 91 92 93 94 96 97 98 99 9a 9b 9c 9d 9e 9f 9g 9h 9i 9j 9k 9l 9m 9n ",
     "9o 9p 9q 9r 9s 9t 9u 9v 9w 9x 9y 9z a0 a1 a2 a3 a4 a5 a6 a7 a8 a9 aa ab ac ad ae af ag ai aj ak ",
     "al am ap ar as at au aw ax b0 b2 b6 b7 b9 ba bd bg bi bj bl bm bn bo bp bq bs bt bu bw bx by c0 ",
     "c1 c4 c5 c6 c7 c9 cc cd ck cl cn co cq cr ct cu cv cw cx cy cz d0 d1 d2 d3 d4 d5 d6 d7 d8 da db ",
     "dc dd de df dg dh di dj dk dl dm dn do dp dq dr dt du dw dx dy e1 e2 e3 e4 e5 e6 e7 e8 e9 ea eb ",
     "ec ed ee ef eg eh ei ej ek el em en eo ep eq er es et eu ev ew ex ey ez f0 f1 f2 f3 f4 f5 f6 f7 ",
     "f8 f9 fa fb fc fd fe ff fg fh fi fj fk fl fm fn fu fw fx fz g1 g2 g3 g7 g8 g9 ga gb gc gd ge gf ",
     "og oh oi oj om on ov ow p2 p3 p4 p7 p8 p9 pa pc pd pu pv q4 r3 r4 r6 r9 rc rd re rf rg rh ri rj ",
     "rk rl rm rn ro rp rq rr rs rt ru rv rw rx ry rz s4 s5 s7 s8 s9 sb sd ts v4 v5 v6 v7 v8 v9 va vb ",
     "vc vd ve vf vg vh vi vj vk vl vm vn vo vp vq vr vs vt vu vv vw vx vy vz w0 w1 wa wb wc wd we wf ",
     "wg wh wi wj wk wl wm wn wo wp wq wr ws wt wu wv ww wx wy wz x0 x1 x2 x3 x4 x5 x6 x7 x8 x9 xa xb ",
     "xc xd xe xf xg xh xi xj xk xl xm xn xo xp xq xr xs xu xv xw xx xy xz y0 y1 y2 y3 y4 y5 y6 y8 y9 ",
     "ya yb yc yd ye yf yg yh yi yj yk yl ym yn yo yp yq yr ys yt yu yv yw yx yy yz z0 z1 z2 z3 z4 z5 ",
     "z6 z7 z8 z9 za zb zc zd ze zf zg zh zi zj zk zl zm zn zo zp zq zr zs zt zu zv zw zx zy zz 100 ",
     "101 102 103 104 105 106 107 108 109 10a 10b 10c 10d 10e 10f 10g 10h 10i 10j 10k 10l 10m 10n 10o ",
     "10p 10q 10r 10s 10t 10u 10v 10x 11z 3a8 3ba 3bb 3bc 3bh 3bi 3vk 3xy 5n4 5ob 5od 5og 5xc 5xd 5xe ",
     "5xf 5xg 5xh 5xi 5xj 5xk 5xl 5xm 5xn 5xo 5xp 5xq 5xr 5xs 5xt 5xu 5xv 5xw 5xx 5xy 5xz 5y0 5y1 5y2 ",
     "5y3 5y4 5y5 5y6 5y7 5y8 5y9 5ya 5yb 5yc 5yd 5ye 5yf 5yg 5yh 5yi 5yj 5yk 5yl 5ym 5yn 5yo 5yp 5yq ",
     "5yr 5ys 5yt 5yu 5yv 5yw 5yx 5yy 5yz 5z0 5z1 5z2 5z3 5z4 5z5 5z6 5z7 5z8 5z9 5za 5zb 5zc 5zd 5ze ",
     "5zf 5zg 5zh 5zi 5zj 5zk 5zl 5zm 5zn 5zo 5zp 5zq 5zr 5zs 5zt 5zu 5zv 5zw 5zx 5zy 5zz 600 601 602 ",
     "603 604 605 606 607 608 609 60a 60b 60c 60d 60e 60f 60g 60h 60i 60j 60k 60l 60m 60n 60o 60p 60q ",
     "60r 60s 60t 60u 60v 60w 60x 60y 60z 610 611 612 613 614 615 616 617 618 619 61a 61b 61c 61d 61e ",
     "61f 61g 61h 61q 61r 61s 61t 61u 61v 61w 61x 61y 61z 620 621 622 623 624 625 626 627 628 629 62a ",
     "62b 62c 62d 62e 62f 62g 62h 62i 62j 62k 62l 62m 62n 62o 62p 62q 62r 62s 62t 62u 62v 62w 62x 62y ",
     "62z 630 631 632 633 634 635 636 637 638 639 63a 63b 63c 63d 63e 63f 63g 63h 63i 63j 63k 63l 63m ",
     "63n 63o 63p 63q 63r 63s 63t 63u 63v 63w 63x 63y 63z 640 641 642 643 644 645 646 647 648 649 64a ",
     "64b 64c 64d 64e 64f 64o 64w 654 65a 65k 65s 660 668 66g 66m 66x 66y 66z 670 671 672 673 674 67c ",
     "67k 69k 69o 6a0 6a4 6ag 6ak 6aw 6b1 6bc 6bg 6iq 6ir 6iv 6iw 6iz 6j2 6j4 6j7 6j9 6ja 6jd 6ji 6jo ",
     "6jp 6jq 6jr 6js 6jt 6ju 6jy 6k0 6k4 6ke 6kg 6kl 6km 6lc 6ls 6mb 6mc 792 79s 8ow 8q8 8rk 8rl 8rm ",
     "8rp 8rr 8rs 8rt 8ru 8rv 8rw 8rx 8s1 8s2 8s3 8s5 8s6 8se 8sh 8si 8sj 8sk 8sl 8sm 8sn 8so 8sp 8sq ",
     "8sr 8ss 8st 8su 8sv 8sw 8sx 8sy 8sz 8t0 8t1 8t2 8t3 8t4 8t5 8t6 8t7 8t8 8t9 8ta 8tb 8tc 8td 8te ",
     "8tf 8tg 8th 8ti 8tj 8tk 8tl 8tm 8tn 8to 8tp 8tq 8tr 8ts 8tt 8tu 8tv 8tw 8tx 8ty 8tz 8u0 8u1 8u2 ",
     "8u3 8u4 8u5 8u6 8u7 8u8 8u9 8ua 8ub 8uc 8ud 8ue 8uf 8ug 8uh 8ui 8uj 8uk 8ul 8um 8un 8uo 8up 8uq ",
     "8ur 8us 8ut 8uu 8uv 8uw 8ux 8uy 8uz 8v0 8v1 8v2 8v3 8v4 8v5 8v6 8v7 8vf 8vg 8vh 8vi 8vm 8vn wu8 ",
     "wu9 wua wub wuc wud wue wuf wug wuh wui wuj wuk wul wum wun wuo wup wuq wur wus wut wuu wuv wuw ",
     "wux wuy wuz wv0 wv1 wv2 wv3 wv4 wv5 wv6 wv7 wv8 wv9 wva wvb wvc wvd wve wvf wvg wvh ww0 ww1 ww2 ",
     "ww3 ww4 ww5 ww6 ww7 ww8 ww9 wwa wwb wwc wwd wwe wwf wwg wwh wwi wwj wwk wwl wwm wwn wwo wwp wwq ",
     "wwr x0i x0j x0k x0l x0m x0n x0o x0p x0q x0r x0s x0t x0u x0v x0y x0z x10 x11 x12 x13 x14 x15 x16 ",
     "x17 x18 x19 x1a x1b x1c x1d x1e x1f x1g x1h x1i x1j x1k x1l x1m x1n x1o x1p x1q x1r x1s x1t x1u ",
     "x1v x1w x1x x1y x1z x20 x21 x22 x23 x24 x25 x26 x27 x28 x29 x2a x2b x2c x2d x2e x2f x2g x2h x2i ",
     "x2j x2k x2l x2m x2n x2x x2y x2z x30 x31 x33 x34 x35 x36 x37 x38 x39 x3a x3b x3f x3g x3h x3i x3k ",
     "x3l x3m x3n x3q x3r x3s x3t x3u x3v x3w x3x x3y x3z x40 x41 x42 x43 x44 x45 x46 x47 x48 x49 x4a ",
     "x4f x4g x4l x4m x4n x4o x4p x4q x4r x4s x4t x4u x4v x4w x4x x4y x4z x50 x54 x55 x56 x5c x5d x5i ",
     "x5j x5k x5l x6d x6e 1ee9 1eez 1fcw 1fe0 1fhs 1fis 1fn4 1fnf 1fng 1fnv 1fnw 1fo3 1fo4 1fo6 1h1c ",
     "1h2r 1jfk 1jgg 20cg 20dc 2kg0 2kgq 2khg 2ki6 2kiw 2kjm 2kkc 2kkd 2kke 2kkg 2kki 2kkj 2kkl 2kkn ",
     "2kkp 2kkt 2kku 2kl2 2kls 2kmi 2kn8 2kna 2knb 2knf 2knh 2knp 2knq 2knx 2koo 2koq 2kor 2kov 2kow ",
     "2kp1 2kp2 2kp3 2kp6 2kpd 2kq4 2kqu 2krk 2ksa 2kt0 2ktq 2kug 2kv6 2kvw 2kwm 2kxc 2ky2 2kyw 2kzl ",
     "2l0i 2l17 2l24 2l2t 2l3q 2l4f 2l5c 2l61 2l6y 2l6z 2olc 2oma 2q7k 2q8a 2q8g 2q96 2q9c 2qa2"]

def uppercaseSet : Array Nat := readBoundaries uppercaseTable

/-- The boundaries of Variation Selector. -/
def variationSelectorTable : String :=
  String.join
    ["4qz 4r2 4r3 4r4 1e68 1e6o jo5c joc0"]

def variationSelectorSet : Array Nat := readBoundaries variationSelectorTable

/-- The boundaries of White Space. -/
def whiteSpaceTable : String :=
  String.join
    ["9 e w x 3p 3q 4g 4h 4g0 4g1 6bk 6bv 6co 6cq 6cv 6cw 6e7 6e8 9hc 9hd"]

def whiteSpaceSet : Array Nat := readBoundaries whiteSpaceTable

/-- The boundaries of XID Continue. -/
def xidContinueTable : String :=
  String.join
    ["1c 1m 1t 2j 2n 2o 2p 3f 4q 4r 51 52 53 54 56 57 5c 5z 60 6v 6w jm jq k2 kg kl ks kt ku kv lc ol ",
     "om oo or ou ov ow p2 p7 p8 p9 pa pu pv s6 s7 w2 w3 w8 wa 10w 10x 11z 121 122 128 13d 13l 14u 14v ",
     "14w 14x 14z 150 152 153 154 15c 163 167 16b 174 17f 17k 19m 19q 1ck 1cl 1ct 1cv 1d5 1d6 1dp 1dr ",
     "1ds 1e8 1fv 1fx 1iq 1j4 1km 1kq 1kr 1kt 1ku 1kw 1m6 1mo 1ng 1nk 1nv 1o0 1oo 1op 1ov 1p4 1r6 1r7 ",
     "1us 1uu 1v4 1v5 1vo 1vp 1vx 1vz 1w1 1w3 1wp 1wq 1wx 1wy 1wz 1x2 1x6 1x8 1xh 1xj 1xl 1xn 1xr 1xz ",
     "1y0 1y4 1y6 1y7 1yc 1ye 1yq 1z0 1z1 1z2 1z3 1z5 1z8 1z9 1zf 1zj 1zl 1zn 209 20a 20h 20i 20k 20l ",
     "20n 20o 20q 20s 20t 20u 20z 213 215 217 21a 21d 21e 21l 21p 21q 21r 21y 22e 22p 22s 22t 232 233 ",
     "236 237 23t 23u 241 242 244 245 24a 24c 24m 24n 24q 24r 24u 24w 24x 25c 25g 25i 25s 261 268 269 ",
     "26c 26d 26l 26n 26p 26r 27d 27e 27l 27m 27o 27p 27u 27w 285 287 289 28b 28e 28l 28o 28s 28u 28v ",
     "290 292 29c 29d 29e 29u 29w 29x 2a3 2a6 2a9 2aa 2ae 2ah 2aj 2ak 2al 2am 2ao 2ar 2at 2aw 2az 2b2 ",
     "2be 2bi 2bn 2bq 2bt 2bu 2by 2c0 2c1 2c7 2c8 2cm 2cw 2dc 2dp 2dq 2dt 2du 2eh 2ei 2ey 2f0 2f9 2fa ",
     "2fd 2fe 2fi 2fp 2fr 2fs 2fv 2fx 2fy 2g0 2g4 2g6 2gg 2gw 2h0 2h1 2h9 2ha 2hd 2he 2i1 2i2 2ic 2id ",
     "2ii 2ik 2it 2iu 2ix 2iy 2j2 2j9 2jb 2jh 2jj 2jk 2jo 2jq 2k0 2k1 2k4 2kg 2kt 2ku 2kx 2ky 2md 2me ",
     "2mh 2mi 2mn 2ms 2mw 2n3 2n8 2na 2nk 2nu 2o0 2o1 2o4 2o5 2on 2oq 2pe 2pf 2po 2pp 2pq 2ps 2pz 2q2 ",
     "2q3 2q7 2qd 2qe 2qf 2qg 2qo 2qu 2r4 2r6 2r8 2rl 2t7 2tc 2tr 2ts 2u2 2v5 2v7 2v8 2v9 2va 2vf 2vg ",
     "2w4 2w5 2w6 2w7 2wu 2ww 2x1 2x2 2x3 2x4 2xb 2xc 2xm 2xo 2xs 2yo 2yp 2zc 2ze 2zk 2zu 305 306 307 ",
     "308 309 30a 30e 30o 30p 31p 31t 32d 32e 32w 32x 33x 346 347 35s 37u 380 3a6 3a8 3ba 3bb 3bc 3bh ",
     "3bi 3bk 3cr 3cs 3m1 3m2 3m6 3m8 3mf 3mg 3mh 3mi 3mm 3mo 3nt 3nu 3ny 3o0 3ox 3oy 3p2 3p4 3pb 3pc ",
     "3pd 3pe 3pi 3pk 3pz 3q0 3rl 3rm 3rq 3rs 3tn 3tp 3ts 3u1 3ua 3uo 3v4 3vk 3xy 3y0 3y6 3y9 4fh 4fj ",
     "4g0 4g1 4gr 4gw 4iz 4j2 4jd 4jk 4k6 4kf 4l1 4lc 4lw 4m8 4ml 4mm 4mp 4mq 4ms 4n4 4pg 4pj 4pk 4po ",
     "4pq 4ps 4q2 4qz 4r2 4r3 4re 4rk 4u1 4u8 4vf 4vk 4xi 4xs 4yn 4yo 4z0 4z4 4zg 4zq 50u 50w 511 51c ",
     "52k 52o 53e 53k 53v 54w 55o 55s 57j 57k 58d 58f 58q 58w 596 59j 59k 59s 5a6 5a7 5an 5c0 5e5 5e8 ",
     "5ei 5ez 5f8 5fk 5is 5j4 5ko 5kw 5l6 5l9 5mm 5mo 5mx 5n4 5ob 5od 5og 5ow 5oz 5p0 5q3 5q8 652 654 ",
     "65a 65c 66e 66g 66m 66o 66w 66x 66y 66z 670 671 672 673 67y 680 69h 69i 69p 69q 69r 69u 69x 69y ",
     "6a5 6a8 6ac 6ae 6ak 6ao 6b1 6b6 6b9 6ba 6bh 6db 6dd 6dw 6dx 6ep 6eq 6f3 6f4 6fk 6fx 6hc 6hp 6ht ",
     "6hu 6hx 6i9 6iq 6ir 6iv 6iw 6iy 6j8 6j9 6ja 6jc 6ji 6jo 6jp 6jq 6jr 6js 6jt 6ju 6ka 6kc 6kg 6kl ",
     "6kq 6ku 6kv 6lc 6mh 8ow 8v9 8vf 8vo 8w0 8x2 8x3 8x4 8x9 8xa 8xc 8yw 8z3 8z4 8zj 907 90g 90n 90o ",
     "90v 90w 913 914 91b 91c 91j 91k 91r 91s 91z 920 927 928 934 9hh 9hk 9i9 9io 9ip 9iu 9iw 9j1 9j5 ",
     "9lj 9ll 9ln 9lp 9ls 9lt 9ob 9oc 9og 9ol 9ps 9pt 9sf 9sw 9ts 9v4 9vk a9s fcw feo wi5 wk0 wla wlc ",
     "wst wsw wto wu8 wvk wvo wvy wvz wz6 x07 x0g x0i x3d x3f x57 x5c x5e x5f x5g x5h x5m x6a x7s x7w ",
     "x7x x8g x9w xa8 xc6 xcg xcq xcw xdk xdn xdo xdp xf2 xf4 xg4 xgg xh9 xhc xj5 xjj xju xk0 xkv xkw ",
     "xmf xmo xn2 xn4 xne xnk xo7 xoa xqb xqz xr2 xr4 xrk xrm xrr xs1 xs7 xs9 xsf xsh xsn xsw xt3 xt4 ",
     "xtb xtc xuj xuk xuy xv4 xyj xyk xym xyo xyy xz4 16lg 16ls 16mf 16mj 16nw 1d6o 1dgu 1dgw 1dju ",
     "1dkw 1dl3 1dlf 1dlk 1dlp 1dm1 1dm2 1dmf 1dmg 1dml 1dmm 1dmn 1dmo 1dmq 1dmr 1dmt 1dmu 1dpu 1dqr ",
     "1dum 1dus 1e0u 1e1c 1e34 1e36 1e4o 1e5s 1e62 1e68 1e6o 1e74 1e7k 1e7n 1e7p 1e8d 1e8g 1e9d 1e9e ",
     "1e9f 1e9g 1e9j 1e9k 1e9l 1e9m 1e9n 1e9o 1e9p 1e9q 1e9r 1ed9 1eds 1ee2 1ee9 1eez 1ef3 1ef4 1ef5 ",
     "1efv 1eg6 1ein 1eiq 1eiw 1eiy 1ej4 1ej6 1ejc 1eje 1ejh 1ekg 1eks 1ekt 1elj 1elk 1em3 1em4 1em6 ",
     "1em7 1emm 1emo 1en2 1eo0 1erf 1etc 1eut 1eyl 1eym 1f28 1f31 1f34 1f4h 1f4w 1f4x 1f5s 1f6o 1f71 ",
     "1f7v 1f80 1f97 1f9c 1fa6 1fa8 1fb8 1fbc 1fbk 1fbl 1fbq 1fcw 1fha 1fhc 1fhm 1fhs 1fis 1fiw 1fjw ",
     "1fk0 1fl4 1flc 1fms 1fn4 1fnf 1fng 1fnv 1fnw 1fo3 1fo4 1fo6 1fo7 1foi 1foj 1foy 1foz 1fp6 1fp7 ",
     "1fp9 1fr4 1fzr 1g00 1g0m 1g0w 1g14 1g1s 1g1y 1g1z 1g35 1g36 1g3f 1g5c 1g5i 1g5k 1g5l 1g5m 1g6u ",
     "1g6v 1g6x 1g70 1g71 1g73 1g7q 1g80 1g8n 1g8w 1g9r 1gbk 1gc3 1gc4 1gc6 1gcg 1gd2 1gdc 1ge2 1gg0 ",
     "1ghk 1ghq 1ghs 1gjk 1gjo 1gjp 1gjr 1gjw 1gk4 1gk5 1gk8 1gk9 1gl2 1gl4 1gl7 1glb 1glc 1gm8 1gn1 ",
     "1gn4 1gnx 1gow 1gp4 1gp5 1gpz 1gqo 1gs6 1gsg 1gt2 1gtc 1gtv 1gu8 1guq 1gxs 1gzt 1h1c 1h2r 1h34 ",
     "1h4j 1h4w 1h60 1h68 1h6i 1hfk 1hgq 1hgr 1hgt 1hgw 1hgy 1hj1 1hjx 1hk7 1hk8 1hkg 1hld 1hm8 1hmu ",
     "1ho0 1hol 1hpc 1hpz 1hq8 1hs7 1ht2 1hti 1htr 1hvf 1hvm 1hvn 1hw0 1hwp 1hww 1hx6 1hxc 1hyt 1hyu ",
     "1hz4 1hz8 1hzc 1hzk 1i0k 1i0m 1i0n 1i0w 1i2t 1i2x 1i31 1i32 1i3f 1i3g 1i3h 1i4g 1i4y 1i4z 1i60 ",
     "1i66 1i6a 1i80 1i87 1i88 1i89 1i8a 1i8e 1i8f 1i8u 1i8v 1i95 1i9c 1iaz 1ib4 1ibe 1ibk 1ibo 1ibp ",
     "1ibx 1ibz 1ic1 1ic3 1icp 1icq 1icx 1icy 1id0 1id1 1id6 1id7 1idh 1idj 1idl 1idn 1idq 1ids 1idt ",
     "1idz 1ie0 1ie5 1iec 1iee 1iel 1ieo 1iet 1iio 1ikr 1ikw 1il6 1ila 1ile 1im8 1io6 1io7 1io8 1iog ",
     "1ioq 1itc 1iuu 1iuw 1iv5 1ivs 1ivy 1iww 1iyp 1iys 1iyt 1iz4 1ize 1j0g 1j21 1j28 1j2i 1j40 1j4r ",
     "1j4t 1j58 1j5c 1j5m 1j5s 1j5z 1jb4 1jcr 1jfk 1jhm 1ji7 1jif 1jih 1jii 1jik 1jis 1jit 1jiv 1jiw ",
     "1jjq 1jjr 1jjt 1jjv 1jk4 1jkg 1jkq 1jmo 1jmw 1jmy 1jo8 1joa 1joi 1joj 1jol 1jpc 1jr3 1jrb 1jrc ",
     "1jrk 1jtm 1jtp 1jtq 1ju8 1jw9 1k3k 1k3t 1k3u 1k53 1k54 1k5d 1k5s 1k62 1k6q 1k7k 1k7m 1k88 1k89 ",
     "1k8n 1kao 1kav 1kaw 1kay 1kaz 1kc7 1kca 1kcb 1kcc 1kce 1kcf 1kco 1kcw 1kd6 1kdc 1kdi 1kdj 1kdl ",
     "1kdm 1ken 1keo 1keq 1ker 1kex 1kf4 1kfe 1ko0 1kon 1kow 1kpd 1kpe 1kqj 1kqm 1kqr 1kr4 1kre 1kts ",
     "1ktt 1kw0 1llm 1log 1lrj 1ls0 1lxg 1nyo 1o1d 1o1s 1ovk 1ow0 1owm 1s00 1sg7 1z40 1zjt 1zk0 1zkv ",
     "1zkw 1zl6 1zlc 1znj 1znk 1znu 1zo0 1zou 1zow 1zp1 1zpc 1zqv 1zr4 1zr8 1zrk 1zru 1zs3 1zso 1zst ",
     "1ztc 20cg 20e8 20hs 20jv 20jz 20lk 20lr 20m8 20o0 20o2 20o3 20o5 20og 20oi 20ow 25fc 25fk 26dy ",
     "26f4 26fd 2dbk 2dbo 2dbp 2dbw 2dbx 2dbz 2dc0 2dk3 2dki 2dkj 2dlc 2dlf 2dlh 2dli 2dlw 2dm0 2dm8 ",
     "2dx8 2fpc 2fsb 2fsg 2fst 2fsw 2ft5 2ftc 2ftm 2ftp 2ftr 2jgg 2jhq 2jhs 2jif 2jxh 2jxm 2jxp 2jxv ",
     "2jy3 2jyb 2jyd 2jyk 2jze 2jzi 2k3m 2k3p 2kg0 2kid 2kie 2kkd 2kke 2kkg 2kki 2kkj 2kkl 2kkn 2kkp ",
     "2kkt 2kku 2kl6 2kl7 2kl8 2kl9 2klg 2klh 2kna 2knb 2knf 2knh 2knp 2knq 2knx 2kny 2koq 2kor 2kov ",
     "2kow 2kp1 2kp2 2kp3 2kp6 2kpd 2kpe 2kyu 2kyw 2kzl 2kzm 2l0b 2l0c 2l17 2l18 2l1x 2l1y 2l2t 2l2u ",
     "2l3j 2l3k 2l4f 2l4g 2l55 2l56 2l61 2l62 2l6r 2l6s 2l70 2l72 2l8g 2lmo 2lo7 2lob 2lpp 2lpx 2lpy ",
     "2lqc 2lqd 2lqz 2lr4 2lr5 2lrk 2mm8 2mn3 2mn9 2mnf 2mtc 2mtj 2mtk 2mu1 2mu3 2mua 2mub 2mud 2mue ",
     "2muj 2muo 2mwe 2mxb 2mxc 2n0g 2n1p 2n1s 2n26 2n28 2n2i 2n2m 2n2n 2nbk 2ncf 2ncw 2nei 2nrk 2nsq ",
     "2odc 2odj 2odk 2odo 2odp 2odr 2ods 2oe7 2oe8 2ojp 2ok0 2ok7 2olc 2ong 2onk 2onu 2pkw 2pl0 2pl1 ",
     "2pls 2plt 2plv 2plw 2plx 2plz 2pm0 2pm1 2pmb 2pmc 2pmg 2pmh 2pmi 2pmj 2pmk 2pmq 2pmr 2pmv 2pmw ",
     "2pmx 2pmy 2pmz 2pn0 2pn1 2pn4 2pn5 2pn7 2pn8 2pn9 2pnb 2pnc 2pnd 2pne 2pnf 2png 2pnh 2pni 2pnj ",
     "2pnk 2pnl 2pnn 2pno 2pnp 2pnr 2pnv 2pnw 2po3 2po4 2po8 2po9 2pod 2poe 2pof 2pog 2poq 2por 2pp8 ",
     "2ppd 2ppg 2pph 2ppm 2ppn 2pq4 2sc0 2sca 2t4w 3q3k 3q4g 3tbu 3tc0 3ti6 3ti8 3xya 3xyo 43q9 464g ",
     "46ji 47pc 4bij 4bio 4er4 jo5c joc0"]

def xidContinueSet : Array Nat := readBoundaries xidContinueTable

/-- The boundaries of XID Start. -/
def xidStartTable : String :=
  String.join
    ["1t 2j 2p 3f 4q 4r 51 52 56 57 5c 5z 60 6v 6w jm jq k2 kg kl ks kt ku kv og ol om oo or ou ov ow ",
     "p2 p3 p4 p7 p8 p9 pa pu pv s6 s7 w2 wa 10w 10x 11z 121 122 128 13d 15c 163 167 16b 17k 18r 19q ",
     "19s 19t 1ck 1cl 1cm 1d1 1d3 1da 1dc 1dm 1dp 1dr 1ds 1e8 1e9 1ea 1f4 1fx 1ie 1ip 1iq 1je 1kb 1kk ",
     "1km 1kq 1kr 1kw 1li 1lm 1ln 1lw 1lx 1m0 1m1 1mo 1nd 1nk 1nv 1o0 1oo 1op 1ov 1pc 1qi 1s4 1tm 1tp ",
     "1tq 1u8 1u9 1ug 1uq 1v5 1vl 1vp 1vx 1vz 1w1 1w3 1wp 1wq 1wx 1wy 1wz 1x2 1x6 1x9 1xa 1xq 1xr 1y4 ",
     "1y6 1y7 1ya 1yo 1yq 1z0 1z1 1z9 1zf 1zj 1zl 1zn 209 20a 20h 20i 20k 20l 20n 20o 20q 21l 21p 21q ",
     "21r 22a 22d 22t 232 233 236 237 23t 23u 241 242 244 245 24a 24d 24e 24w 24x 25c 25e 261 262 26d ",
     "26l 26n 26p 26r 27d 27e 27l 27m 27o 27p 27u 27x 27y 28s 28u 28v 28y 29d 29e 29v 29w 29x 2a3 2a6 ",
     "2a9 2aa 2ae 2ah 2aj 2ak 2al 2am 2ao 2ar 2at 2aw 2az 2b2 2be 2c0 2c1 2dh 2dp 2dq 2dt 2du 2eh 2ei ",
     "2ey 2f1 2f2 2fs 2fv 2fx 2fy 2g0 2g2 2gw 2gx 2h1 2h9 2ha 2hd 2he 2i1 2i2 2ic 2id 2ii 2il 2im 2jh ",
     "2jj 2jk 2jm 2k1 2k3 2kk 2kt 2ku 2kx 2ky 2m3 2m5 2m6 2mm 2mn 2ms 2mv 2n3 2n6 2nu 2o0 2o5 2on 2oq ",
     "2pe 2pf 2po 2pp 2pq 2ps 2pz 2rl 2sx 2sy 2sz 2tc 2tj 2v5 2v7 2v8 2v9 2va 2vf 2vg 2w4 2w5 2w6 2w7 ",
     "2wh 2wi 2wj 2wt 2wu 2ww 2x1 2x2 2x3 2xo 2xs 2yo 2yp 30g 30o 30p 31p 32g 32l 35s 36z 37j 37k 380 ",
     "386 38a 38e 38h 38i 38l 38n 38u 38x 391 39e 39q 39r 3a8 3ba 3bb 3bc 3bh 3bi 3bk 3cr 3cs 3m1 3m2 ",
     "3m6 3m8 3mf 3mg 3mh 3mi 3mm 3mo 3nt 3nu 3ny 3o0 3ox 3oy 3p2 3p4 3pb 3pc 3pd 3pe 3pi 3pk 3pz 3q0 ",
     "3rl 3rm 3rq 3rs 3tn 3uo 3v4 3vk 3xy 3y0 3y6 3y9 4fh 4fj 4g0 4g1 4gr 4gw 4iz 4j2 4jd 4jk 4k2 4kf ",
     "4ky 4lc 4lu 4m8 4ml 4mm 4mp 4n4 4ok 4pj 4pk 4po 4pp 4rk 4u1 4u8 4vd 4ve 4vf 4vk 4xi 4xs 4yn 500 ",
     "50u 50w 511 51c 52k 52o 53e 54w 55j 55s 579 59j 59k 5c5 5dg 5dx 5e5 5fn 5gh 5gu 5gw 5h6 5ie 5j4 ",
     "5k4 5l9 5lc 5lm 5mm 5mo 5mx 5n4 5ob 5od 5og 5pl 5pp 5pq 5pw 5px 5pz 5q2 5q3 5q8 5vk 5xc 652 654 ",
     "65a 65c 66e 66g 66m 66o 66w 66x 66y 66z 670 671 672 673 67y 680 69h 69i 69p 69q 69r 69u 69x 69y ",
     "6a5 6a8 6ac 6ae 6ak 6ao 6b1 6b6 6b9 6ba 6bh 6ep 6eq 6f3 6f4 6fk 6fx 6iq 6ir 6iv 6iw 6iy 6j8 6j9 ",
     "6ja 6jc 6ji 6jo 6jp 6jq 6jr 6js 6jt 6ju 6ka 6kc 6kg 6kl 6kq 6ku 6kv 6lc 6mh 8ow 8v9 8vf 8vj 8vm ",
     "8vo 8w0 8x2 8x3 8x4 8x9 8xa 8xc 8yw 8z3 8z4 8zk 907 90g 90n 90o 90v 90w 913 914 91b 91c 91j 91k ",
     "91r 91s 91z 920 927 9hh 9hk 9i9 9ii 9ip 9iu 9iw 9j1 9j5 9lj 9lp 9ls 9lt 9ob 9oc 9og 9ol 9ps 9pt ",
     "9sf 9sw 9ts 9v4 9vk a9s fcw feo wi5 wk0 wla wlc wst wsw wtc wtm wto wu8 wvj wvz wwu www wz4 x07 ",
     "x0g x0i x3d x3f x57 x5c x5e x5f x5g x5h x5m x6a x6q x6r x6u x6v x6z x70 x7n x8g x9w xaa xbo xde ",
     "xdk xdn xdo xdp xdr xe2 xeu xf4 xfr xgg xh9 xhg xir xjj xjk xk0 xk5 xk6 xkg xkq xkv xkw xm1 xmo ",
     "xmr xms xn0 xnk xo7 xoa xob xoe xps xpt xpu xpx xpz xq1 xq6 xq8 xq9 xqa xqb xqz xr2 xr4 xrf xrm ",
     "xrp xs1 xs7 xs9 xsf xsh xsn xsw xt3 xt4 xtb xtc xuj xuk xuy xv4 xyb xz4 16lg 16ls 16mf 16mj 16nw ",
     "1d6o 1dgu 1dgw 1dju 1dkw 1dl3 1dlf 1dlk 1dlp 1dlq 1dlr 1dm1 1dm2 1dmf 1dmg 1dml 1dmm 1dmn 1dmo ",
     "1dmq 1dmr 1dmt 1dmu 1dpu 1dqr 1dum 1dus 1e0u 1e1c 1e34 1e36 1e4o 1e5s 1e62 1e9d 1e9e 1e9f 1e9g ",
     "1e9j 1e9k 1e9l 1e9m 1e9n 1e9o 1e9p 1e9q 1e9r 1ed9 1ee9 1eez 1ef5 1efv 1eg6 1ehq 1ehs 1ein 1eiq ",
     "1eiw 1eiy 1ej4 1ej6 1ejc 1eje 1ejh 1ekg 1eks 1ekt 1elj 1elk 1em3 1em4 1em6 1em7 1emm 1emo 1en2 ",
     "1eo0 1erf 1etc 1eut 1f28 1f31 1f34 1f4h 1f5s 1f6o 1f71 1f7v 1f80 1f92 1f9c 1fa6 1fa8 1fb8 1fbc ",
     "1fbk 1fbl 1fbq 1fcw 1fha 1fhs 1fis 1fiw 1fjw 1fk0 1fl4 1flc 1fms 1fn4 1fnf 1fng 1fnv 1fnw 1fo3 ",
     "1fo4 1fo6 1fo7 1foi 1foj 1foy 1foz 1fp6 1fp7 1fp9 1fr4 1fzr 1g00 1g0m 1g0w 1g14 1g1s 1g1y 1g1z ",
     "1g35 1g36 1g3f 1g5c 1g5i 1g5k 1g5l 1g5m 1g6u 1g6v 1g6x 1g70 1g71 1g73 1g7q 1g80 1g8n 1g8w 1g9r ",
     "1gbk 1gc3 1gc4 1gc6 1gcg 1gd2 1gdc 1ge2 1gg0 1ghk 1ghq 1ghs 1gjk 1gjl 1gk0 1gk4 1gk5 1gk8 1gk9 ",
     "1gl2 1gm8 1gn1 1gn4 1gnx 1gow 1gp4 1gp5 1gpx 1gqo 1gs6 1gsg 1gt2 1gtc 1gtv 1gu8 1guq 1gxs 1gzt ",
     "1h1c 1h2r 1h34 1h4j 1h4w 1h5w 1hfk 1hgq 1hgw 1hgy 1hj4 1hjx 1hk7 1hk8 1hkg 1hl2 1hm8 1hmq 1ho0 ",
     "1hol 1hpc 1hpz 1hqb 1hrs 1htd 1htf 1hth 1hti 1htv 1hv4 1hw0 1hwp 1hxf 1hyf 1hz8 1hz9 1hzb 1hzc ",
     "1hzk 1i0j 1i0m 1i0n 1i0z 1i2b 1i2p 1i2t 1i3e 1i3f 1i3g 1i3h 1i4g 1i4y 1i4z 1i5o 1i67 1i69 1i80 ",
     "1i87 1i88 1i89 1i8a 1i8e 1i8f 1i8u 1i8v 1i95 1i9c 1ian 1ibp 1ibx 1ibz 1ic1 1ic3 1icp 1icq 1icx ",
     "1icy 1id0 1id1 1id6 1id9 1ida 1ids 1idt 1ie5 1iea 1iio 1ik5 1ikn 1ikr 1ilb 1ile 1im8 1ink 1io4 ",
     "1io6 1io7 1io8 1itc 1iun 1ivs 1ivw 1iww 1iy8 1iys 1iyt 1j0g 1j1n 1j20 1j21 1j40 1j4r 1j5s 1j5z ",
     "1jb4 1jcc 1jfk 1jhc 1ji7 1jif 1jih 1jii 1jik 1jis 1jit 1jiv 1jiw 1jjk 1jjz 1jk0 1jk1 1jk2 1jmo ",
     "1jmw 1jmy 1jo1 1joh 1joi 1joj 1jok 1jpc 1jpd 1jpn 1jqr 1jqy 1jqz 1jrk 1jrl 1jrw 1jt6 1jtp 1jtq ",
     "1ju8 1jw9 1k3k 1k3t 1k3u 1k4v 1k5c 1k5d 1k6q 1k7k 1kao 1kav 1kaw 1kay 1kaz 1kc1 1kcm 1kcn 1kdc ",
     "1kdi 1kdj 1kdl 1kdm 1kei 1kew 1kex 1ko0 1koj 1koy 1koz 1kp0 1kpd 1kpe 1kqc 1kts 1ktt 1kw0 1llm ",
     "1log 1lrj 1ls0 1lxg 1nyo 1o1d 1o1s 1ovk 1ow1 1ow7 1s00 1sg7 1z40 1zjt 1zk0 1zkv 1zlc 1znj 1zo0 ",
     "1zou 1zpc 1zqo 1zr4 1zr8 1zs3 1zso 1zst 1ztc 20cg 20e8 20hs 20jv 20k0 20k1 20lv 20m8 20o0 20o2 ",
     "20o3 20o4 20ow 25fc 25fk 26dy 26f4 26fd 2dbk 2dbo 2dbp 2dbw 2dbx 2dbz 2dc0 2dk3 2dki 2dkj 2dlc ",
     "2dlf 2dlh 2dli 2dlw 2dm0 2dm8 2dx8 2fpc 2fsb 2fsg 2fst 2fsw 2ft5 2ftc 2ftm 2kg0 2kid 2kie 2kkd ",
     "2kke 2kkg 2kki 2kkj 2kkl 2kkn 2kkp 2kkt 2kku 2kl6 2kl7 2kl8 2kl9 2klg 2klh 2kna 2knb 2knf 2knh ",
     "2knp 2knq 2knx 2kny 2koq 2kor 2kov 2kow 2kp1 2kp2 2kp3 2kp6 2kpd 2kpe 2kyu 2kyw 2kzl 2kzm 2l0b ",
     "2l0c 2l17 2l18 2l1x 2l1y 2l2t 2l2u 2l3j 2l3k 2l4f 2l4g 2l55 2l56 2l61 2l62 2l6r 2l6s 2l70 2mm8 ",
     "2mn3 2mn9 2mnf 2muo 2mwe 2n0g 2n1p 2n1z 2n26 2n2m 2n2n 2nbk 2nce 2ncw 2ne4 2nrk 2nsc 2odc 2odj ",
     "2odk 2odo 2odp 2odr 2ods 2oe7 2oe8 2ojp 2olc 2on8 2onf 2ong 2pkw 2pl0 2pl1 2pls 2plt 2plv 2plw ",
     "2plx 2plz 2pm0 2pm1 2pmb 2pmc 2pmg 2pmh 2pmi 2pmj 2pmk 2pmq 2pmr 2pmv 2pmw 2pmx 2pmy 2pmz 2pn0 ",
     "2pn1 2pn4 2pn5 2pn7 2pn8 2pn9 2pnb 2pnc 2pnd 2pne 2pnf 2png 2pnh 2pni 2pnj 2pnk 2pnl 2pnn 2pno ",
     "2pnp 2pnr 2pnv 2pnw 2po3 2po4 2po8 2po9 2pod 2poe 2pof 2pog 2poq 2por 2pp8 2ppd 2ppg 2pph 2ppm ",
     "2ppn 2pq4 2t4w 3q3k 3q4g 3tbu 3tc0 3ti6 3ti8 3xya 3xyo 43q9 464g 46ji 47pc 4bij 4bio 4er4"]

def xidStartSet : Array Nat := readBoundaries xidStartTable

/-- The binary properties: their loose names and their sets. -/
def binaryProperties : List (List String × Array Nat) :=
  [(["ahex", "asciihexdigit"], asciiHexDigitSet),
   (["alpha", "alphabetic"], alphabeticSet),
   (["bidic", "bidicontrol"], bidiControlSet),
   (["bidim", "bidimirrored"], bidiMirroredSet),
   (["caseignorable", "ci"], caseIgnorableSet),
   (["cased"], casedSet),
   (["changeswhencasefolded", "cwcf"], changesWhenCasefoldedSet),
   (["changeswhencasemapped", "cwcm"], changesWhenCasemappedSet),
   (["changeswhenlowercased", "cwl"], changesWhenLowercasedSet),
   (["changeswhentitlecased", "cwt"], changesWhenTitlecasedSet),
   (["changeswhenuppercased", "cwu"], changesWhenUppercasedSet),
   (["dash"], dashSet),
   (["defaultignorablecodepoint", "di"], defaultIgnorableCodePointSet),
   (["dep", "deprecated"], deprecatedSet),
   (["dia", "diacritic"], diacriticSet),
   (["emoji"], emojiSet),
   (["ecomp", "emojicomponent"], emojiComponentSet),
   (["emod", "emojimodifier"], emojiModifierSet),
   (["ebase", "emojimodifierbase"], emojiModifierBaseSet),
   (["emojipresentation", "epres"], emojiPresentationSet),
   (["extendedpictographic", "extpict"], extendedPictographicSet),
   (["ext", "extender"], extenderSet),
   (["graphemebase", "grbase"], graphemeBaseSet),
   (["graphemeextend", "grext"], graphemeExtendSet),
   (["hex", "hexdigit"], hexDigitSet),
   (["idsb", "idsbinaryoperator"], idsBinaryOperatorSet),
   (["idst", "idstrinaryoperator"], idsTrinaryOperatorSet),
   (["idc", "idcontinue"], idContinueSet),
   (["ids", "idstart"], idStartSet),
   (["ideo", "ideographic"], ideographicSet),
   (["joinc", "joincontrol"], joinControlSet),
   (["loe", "logicalorderexception"], logicalOrderExceptionSet),
   (["lower", "lowercase"], lowercaseSet),
   (["math"], mathSet),
   (["nchar", "noncharactercodepoint"], noncharacterCodePointSet),
   (["patsyn", "patternsyntax"], patternSyntaxSet),
   (["patternwhitespace", "patws"], patternWhiteSpaceSet),
   (["pcm", "prependedconcatenationmark"], prependedConcatenationMarkSet),
   (["qmark", "quotationmark"], quotationMarkSet),
   (["radical"], radicalSet),
   (["regionalindicator", "ri"], regionalIndicatorSet),
   (["sentenceterminal", "sterm"], sentenceTerminalSet),
   (["sd", "softdotted"], softDottedSet),
   (["term", "terminalpunctuation"], terminalPunctuationSet),
   (["uideo", "unifiedideograph"], unifiedIdeographSet),
   (["upper", "uppercase"], uppercaseSet),
   (["variationselector", "vs"], variationSelectorSet),
   (["space", "whitespace", "wspace"], whiteSpaceSet),
   (["xidc", "xidcontinue"], xidContinueSet),
   (["xids", "xidstart"], xidStartSet)]

end Covenant.Text.Unicode

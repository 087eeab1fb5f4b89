import Covenant.Text.Unicode.Runs

/-!
# Unicode scripts

The writing system a character belongs to (its script), and the scripts it is used with
(its script extensions: a character shared by several scripts, such as the Devanagari danda,
lists all of them). Characters of no script are `Common`, combining marks not tied to one
script are `Inherited`, and unassigned code points are `Unknown`. Scripts are also named by
their four-letter codes and other aliases, compared loosely.
-/

namespace Covenant.Text.Unicode

/-- The names of the scripts, in the order the tables number them. -/
def scriptNames : Array String :=
  #["Unknown", "Adlam", "Ahom", "Anatolian_Hieroglyphs", "Arabic", "Armenian", "Avestan", "Balinese", "Bamum", "Bassa_Vah", "Batak", "Bengali", "Bhaiksuki", "Bopomofo", "Brahmi", "Braille", "Buginese", "Buhid", "Canadian_Aboriginal", "Carian", "Caucasian_Albanian", "Chakma", "Cham", "Cherokee", "Chorasmian", "Common", "Coptic", "Cuneiform", "Cypriot", "Cypro_Minoan", "Cyrillic", "Deseret", "Devanagari", "Dives_Akuru", "Dogra", "Duployan", "Egyptian_Hieroglyphs", "Elbasan", "Elymaic", "Ethiopic", "Georgian", "Glagolitic", "Gothic", "Grantha", "Greek", "Gujarati", "Gunjala_Gondi", "Gurmukhi", "Han", "Hangul", "Hanifi_Rohingya", "Hanunoo", "Hatran", "Hebrew", "Hiragana", "Imperial_Aramaic", "Inherited", "Inscriptional_Pahlavi", "Inscriptional_Parthian", "Javanese", "Kaithi", "Kannada", "Katakana", "Kawi", "Kayah_Li", "Kharoshthi", "Khitan_Small_Script", "Khmer", "Khojki", "Khudawadi", "Lao", "Latin", "Lepcha", "Limbu", "Linear_A", "Linear_B", "Lisu", "Lycian", "Lydian", "Mahajani", "Makasar", "Malayalam", "Mandaic", "Manichaean", "Marchen", "Masaram_Gondi", "Medefaidrin", "Meetei_Mayek", "Mende_Kikakui", "Meroitic_Cursive", "Meroitic_Hieroglyphs", "Miao", "Modi", "Mongolian", "Mro", "Multani", "Myanmar", "Nabataean", "Nag_Mundari", "Nandinagari", "New_Tai_Lue", "Newa", "Nko", "Nushu", "Nyiakeng_Puachue_Hmong", "Ogham", "Ol_Chiki", "Old_Hungarian", "Old_Italic", "Old_North_Arabian", "Old_Permic", "Old_Persian", "Old_Sogdian", "Old_South_Arabian", "Old_Turkic", "Old_Uyghur", "Oriya", "Osage", "Osmanya", "Pahawh_Hmong", "Palmyrene", "Pau_Cin_Hau", "Phags_Pa", "Phoenician", "Psalter_Pahlavi", "Rejang", "Runic", "Samaritan", "Saurashtra", "Sharada", "Shavian", "Siddham", "SignWriting", "Sinhala", "Sogdian", "Sora_Sompeng", "Soyombo", "Sundanese", "Syloti_Nagri", "Syriac", "Tagalog", "Tagbanwa", "Tai_Le", "Tai_Tham", "Tai_Viet", "Takri", "Tamil", "Tangsa", "Tangut", "Telugu", "Thaana", "Thai", "Tibetan", "Tifinagh", "Tirhuta", "Toto", "Ugaritic", "Vai", "Vithkuqi", "Wancho", "Warang_Citi", "Yezidi", "Yi", "Zanabazar_Square"]

/-- Where each run of one script starts, with the script's number. -/
def scriptTable : String :=
  String.join
    ["0.p 1t.1z 2j.p 2p.1z 3f.p 4q.1z 4r.p 56.1z 57.p 5c.1z 5z.p 60.1z 6v.p 6w.1z jd.p kg.1z kl.p kq.d ",
     "ks.p lc.1k og.18 ok.p ol.18 oo.0 oq.18 ou.p ov.18 ow.0 p0.18 p1.p p2.18 p3.p p4.18 p7.0 p8.18 ",
     "p9.0 pa.18 pu.0 pv.18 rm.q s0.18 sg.u w5.1k w7.u 10w.0 10x.5 11z.0 121.5 13f.0 13h.5 13k.0 ",
     "13l.1h 154.0 15c.1h 163.0 167.1h 16d.0 16o.4 16t.p 16u.4 170.p 171.4 17f.p 17g.4 17j.p 17k.4 ",
     "18g.p 18h.4 18r.1k 192.4 19s.1k 19t.4 1ct.p 1cu.4 1ds.3v 1e6.0 1e7.3v 1fv.0 1fx.3v 1g0.4 1hc.46 ",
     "1iq.0 1j4.2u 1kr.0 1kt.2u 1kw.3j 1m6.0 1m8.3j 1mn.0 1mo.2a 1ng.0 1ni.2a 1nj.0 1nk.3v 1nv.0 1o0.4 ",
     "1ov.0 1ow.4 1oy.0 1p4.4 1r6.p 1r7.4 1s0.w 1u9.1k 1ud.w 1us.p 1uu.w 1vk.b 1vo.0 1vp.b 1vx.0 1vz.b ",
     "1w1.0 1w3.b 1wp.0 1wq.b 1wx.0 1wy.b 1wz.0 1x2.b 1x6.0 1x8.b 1xh.0 1xj.b 1xl.0 1xn.b 1xr.0 1xz.b ",
     "1y0.0 1y4.b 1y6.0 1y7.b 1yc.0 1ye.b 1z3.0 1z5.1b 1z8.0 1z9.1b 1zf.0 1zj.1b 1zl.0 1zn.1b 209.0 ",
     "20a.1b 20h.0 20i.1b 20k.0 20l.1b 20n.0 20o.1b 20q.0 20s.1b 20t.0 20u.1b 20z.0 213.1b 215.0 ",
     "217.1b 21a.0 21d.1b 21e.0 21l.1b 21p.0 21q.1b 21r.0 21y.1b 22f.0 22p.19 22s.0 22t.19 232.0 ",
     "233.19 236.0 237.19 23t.0 23u.19 241.0 242.19 244.0 245.19 24a.0 24c.19 24m.0 24n.19 24q.0 ",
     "24r.19 24u.0 24w.19 24x.0 25c.19 25g.0 25i.19 25u.0 261.19 268.0 269.38 26c.0 26d.38 26l.0 ",
     "26n.38 26p.0 26r.38 27d.0 27e.38 27l.0 27m.38 27o.0 27p.38 27u.0 27w.38 285.0 287.38 289.0 ",
     "28b.38 28e.0 28l.38 28o.0 28s.38 28u.0 28v.38 290.0 292.38 29k.0 29u.42 29w.0 29x.42 2a3.0 ",
     "2a6.42 2a9.0 2aa.42 2ae.0 2ah.42 2aj.0 2ak.42 2al.0 2am.42 2ao.0 2ar.42 2at.0 2aw.42 2az.0 ",
     "2b2.42 2be.0 2bi.42 2bn.0 2bq.42 2bt.0 2bu.42 2by.0 2c0.42 2c1.0 2c7.42 2c8.0 2cm.42 2d7.0 ",
     "2dc.45 2dp.0 2dq.45 2dt.0 2du.45 2eh.0 2ei.45 2ey.0 2f0.45 2f9.0 2fa.45 2fd.0 2fe.45 2fi.0 ",
     "2fp.45 2fr.0 2fs.45 2fv.0 2fx.45 2fy.0 2g0.45 2g4.0 2g6.45 2gg.0 2gn.45 2gw.1p 2h9.0 2ha.1p ",
     "2hd.0 2he.1p 2i1.0 2i2.1p 2ic.0 2id.1p 2ii.0 2ik.1p 2it.0 2iu.1p 2ix.0 2iy.1p 2j2.0 2j9.1p 2jb.0 ",
     "2jh.1p 2jj.0 2jk.1p 2jo.0 2jq.1p 2k0.0 2k1.1p 2k4.0 2kg.29 2kt.0 2ku.29 2kx.0 2ky.29 2md.0 ",
     "2me.29 2mh.0 2mi.29 2mo.0 2ms.29 2n8.0 2na.29 2o0.0 2o1.3p 2o4.0 2o5.3p 2on.0 2oq.3p 2pe.0 ",
     "2pf.3p 2po.0 2pp.3p 2pq.0 2ps.3p 2pz.0 2q2.3p 2q3.0 2q7.3p 2qd.0 2qe.3p 2qf.0 2qg.3p 2qo.0 ",
     "2qu.3p 2r4.0 2r6.3p 2r9.0 2rl.47 2t7.0 2tb.p 2tc.47 2u4.0 2v5.1y 2v7.0 2v8.1y 2v9.0 2va.1y 2vf.0 ",
     "2vg.1y 2w4.0 2w5.1y 2w6.0 2w7.1y 2wu.0 2ww.1y 2x1.0 2x2.1y 2x3.0 2x4.1y 2xb.0 2xc.1y 2xm.0 ",
     "2xo.1y 2xs.0 2yo.48 30o.0 30p.48 31p.0 31t.48 32w.0 32x.48 33x.0 33y.48 34d.0 34e.48 34l.p ",
     "34p.48 34r.0 35s.2o 3a8.14 3ba.0 3bb.14 3bc.0 3bh.14 3bi.0 3bk.14 3cr.p 3cs.14 3cw.1d 3k0.13 ",
     "3m1.0 3m2.13 3m6.0 3m8.13 3mf.0 3mg.13 3mh.0 3mi.13 3mm.0 3mo.13 3nt.0 3nu.13 3ny.0 3o0.13 3ox.0 ",
     "3oy.13 3p2.0 3p4.13 3pb.0 3pc.13 3pd.0 3pe.13 3pi.0 3pk.13 3pz.0 3q0.13 3rl.0 3rm.13 3rq.0 ",
     "3rs.13 3tn.0 3tp.13 3ul.0 3uo.13 3ve.0 3vk.n 3xy.0 3y0.n 3y6.0 3y8.i 4g0.2x 4gt.0 4gw.3i 4iz.p ",
     "4j2.3i 4jd.0 4jk.3w 4k6.0 4kf.3w 4kg.1f 4l1.p 4l3.0 4lc.h 4lw.0 4m8.3x 4ml.0 4mm.3x 4mp.0 4mq.3x ",
     "4ms.0 4n4.1v 4pq.0 4ps.1v 4q2.0 4q8.1v 4qi.0 4qo.2l 4qq.p 4qs.2l 4qt.p 4qu.2l 4re.0 4rk.2l 4u1.0 ",
     "4u8.2l 4vf.0 4vk.i 4xi.0 4xs.21 4yn.0 4yo.21 4z0.0 4z4.21 4zg.0 4zk.21 4zl.0 4zo.21 500.3y 50u.0 ",
     "50w.3y 511.0 51c.2s 52k.0 52o.2s 53e.0 53k.2s 53v.0 53y.2s 540.1v 54w.g 55o.0 55q.g 55s.3z 57j.0 ",
     "57k.3z 58d.0 58f.3z 58q.0 58w.3z 596.0 59c.3z 59q.0 59s.1k 5an.0 5c0.7 5e5.0 5e8.7 5fj.0 5fk.3t ",
     "5hc.a 5is.0 5j0.a 5j4.20 5ko.0 5kr.20 5l6.0 5l9.20 5lc.2y 5mo.u 5mx.0 5n4.14 5ob.0 5od.14 5og.3t ",
     "5oo.0 5ow.1k 5oz.p 5p0.1k 5pd.p 5pe.1k 5pl.p 5pp.1k 5pq.p 5pw.1k 5px.p 5q0.1k 5q2.p 5q3.0 5q8.1z ",
     "5ra.18 5rf.u 5rg.1z 5st.18 5sy.1z 5t2.18 5t7.1z 5tk.u 5tl.1z 5vj.18 5vk.1k 5xc.1z 64g.18 652.0 ",
     "654.18 65a.0 65c.18 66e.0 66g.18 66m.0 66o.18 66w.0 66x.18 66y.0 66z.18 670.0 671.18 672.0 ",
     "673.18 67y.0 680.18 69h.0 69i.18 69x.0 69y.18 6ac.0 6ae.18 6ak.0 6al.18 6b4.0 6b6.18 6b9.0 ",
     "6ba.18 6bj.0 6bk.p 6bw.1k 6by.p 6ed.0 6ee.p 6ep.1z 6eq.0 6es.p 6f3.1z 6f4.p 6fj.0 6fk.1z 6fx.0 ",
     "6g0.p 6gx.0 6hc.1k 6i9.0 6io.p 6jq.18 6jr.p 6ju.1z 6jw.p 6k2.1z 6k3.p 6ku.1z 6kv.p 6lc.1z 6mh.p ",
     "6mk.0 6mo.p 753.0 75s.p 763.0 76o.p 7wg.f 83k.p 8l0.0 8l2.p 8ly.0 8lz.p 8ow.15 8rk.1z 8sg.q ",
     "8vo.0 8vt.q 8w0.14 8x2.0 8x3.14 8x4.0 8x9.14 8xa.0 8xc.49 8yw.0 8z3.49 8z5.0 8zj.49 8zk.13 907.0 ",
     "90g.13 90n.0 90o.13 90v.0 90w.13 913.0 914.13 91b.0 91c.13 91j.0 91k.13 91r.0 91s.13 91z.0 ",
     "920.13 927.0 928.u 934.p 95q.0 96o.1c 97e.0 97f.1c 99w.0 9a8.1c 9g6.0 9gw.p 9h8.0 9hc.p 9hh.1c ",
     "9hi.p 9hj.1c 9hk.p 9i9.1c 9ii.1k 9im.1d 9io.p 9iw.1c 9j0.p 9j4.0 9j5.1i 9lj.0 9ll.1k 9ln.p ",
     "9lp.1i 9ls.p 9lt.1q 9ob.p 9od.1q 9og.0 9ol.d 9ps.0 9pt.1d 9sf.0 9sg.p 9sw.d 9ts.p 9us.0 9v4.1q ",
     "9vk.1d 9wf.0 9wg.p 9y8.1d 9z3.p a1c.1q a2n.p a2o.1q a54.p a9s.1c fcw.p feo.1c vls.4i wi5.0 ",
     "wi8.4i wjr.0 wk0.24 wlc.4d wto.0 wu8.u www.8 wzc.0 wzk.p x0i.1z x3c.p x3f.1z x57.0 x5c.1z x5e.0 ",
     "x5f.1z x5g.0 x5h.1z x5m.0 x6a.1z x6o.3u x7x.0 x80.p x8a.0 x8g.3e xa0.0 xa8.3k xc6.0 xce.3k xcq.0 ",
     "xcw.w xds.1s xf2.p xf3.1s xf4.3h xg4.0 xgf.3h xgg.1d xh9.0 xhc.1n xji.0 xjj.p xjk.1n xju.0 ",
     "xjy.1n xk0.2o xkv.0 xkw.m xmf.0 xmo.m xn2.0 xn4.m xne.0 xng.m xnk.2o xog.40 xqb.0 xqz.40 xr4.2f ",
     "xrr.0 xs1.13 xs7.0 xs9.13 xsf.0 xsh.13 xsn.0 xsw.13 xt3.0 xt4.13 xtb.0 xtc.1z xuj.p xuk.1z ",
     "xut.18 xuu.1z xuy.p xv0.0 xv4.n xxc.2f xym.0 xyo.2f xyy.0 xz4.1d 16lg.0 16ls.1d 16mf.0 16mj.1d ",
     "16nw.0 1d6o.1c 1dgu.0 1dgw.1c 1dju.0 1dkw.1z 1dl3.0 1dlf.5 1dlk.0 1dlp.1h 1dmf.0 1dmg.1h 1dml.0 ",
     "1dmm.1h 1dmn.0 1dmo.1h 1dmq.0 1dmr.1h 1dmt.0 1dmu.1h 1dn4.4 1dqb.0 1dqr.4 1e0u.p 1e0w.4 1e34.0 ",
     "1e36.4 1e4o.0 1e4v.4 1e4w.0 1e5s.4 1e68.1k 1e6o.p 1e6y.0 1e74.1k 1e7i.u 1e7k.p 1e8j.0 1e8k.p ",
     "1e93.0 1e94.p 1e98.0 1e9c.4 1e9h.0 1e9i.4 1ed9.0 1edb.p 1edc.0 1edd.p 1ee9.1z 1eez.p 1ef5.1z ",
     "1efv.p 1eg6.1q 1egg.p 1egh.1q 1ehq.p 1ehs.1d 1ein.0 1eiq.1d 1eiw.0 1eiy.1d 1ej4.0 1ej6.1d 1ejc.0 ",
     "1eje.1d 1ejh.0 1ejk.p 1ejr.0 1ejs.p 1ejz.0 1ek9.p 1eke.0 1ekg.23 1eks.0 1ekt.23 1elj.0 1elk.23 ",
     "1em3.0 1em4.23 1em6.0 1em7.23 1emm.0 1emo.23 1en2.0 1eo0.23 1erf.0 1erk.p 1ern.0 1err.p 1et0.0 ",
     "1et3.p 1etc.18 1evj.0 1evk.p 1evx.0 1ew0.18 1ew1.0 1exc.p 1eyl.1k 1eym.0 1f28.25 1f31.0 1f34.j ",
     "1f4h.0 1f4w.1k 1f4x.p 1f5o.0 1f5s.30 1f6s.0 1f71.30 1f74.16 1f7v.0 1f80.32 1f97.0 1f9c.4c 1fa6.0 ",
     "1fa7.4c 1fa8.33 1fb8.0 1fbc.33 1fbq.0 1fcw.v 1ff4.3m 1fgg.3a 1fha.0 1fhc.3a 1fhm.0 1fhs.39 ",
     "1fis.0 1fiw.39 1fjw.0 1fk0.11 1fl4.0 1flc.k 1fms.0 1fn3.k 1fn4.4e 1fnf.0 1fng.4e 1fnv.0 1fnw.4e ",
     "1fo3.0 1fo4.4e 1fo6.0 1fo7.4e 1foi.0 1foj.4e 1foy.0 1foz.4e 1fp6.0 1fp7.4e 1fp9.0 1fr4.22 1fzr.0 ",
     "1g00.22 1g0m.0 1g0w.22 1g14.0 1g1s.1z 1g1y.0 1g1z.1z 1g35.0 1g36.1z 1g3f.0 1g5c.s 1g5i.0 1g5k.s ",
     "1g5l.0 1g5m.s 1g6u.0 1g6v.s 1g6x.0 1g70.s 1g71.0 1g73.s 1g74.1j 1g7q.0 1g7r.1j 1g80.3c 1g8w.2p ",
     "1g9r.0 1g9z.2p 1ga8.0 1gbk.1g 1gc3.0 1gc4.1g 1gc6.0 1gcb.1g 1gcg.3f 1gd8.0 1gdb.3f 1gdc.26 ",
     "1ge2.0 1ge7.26 1ge8.0 1gg0.2i 1ggw.2h 1ghk.0 1gho.2h 1gi8.0 1gia.2h 1gjk.1t 1gjo.0 1gjp.1t ",
     "1gjr.0 1gjw.1t 1gk4.0 1gk5.1t 1gk8.0 1gk9.1t 1gl2.0 1gl4.1t 1gl7.0 1glb.1t 1gll.0 1gls.1t 1gm1.0 ",
     "1gm8.35 1gn4.31 1go0.0 1gow.2b 1gpz.0 1gq3.2b 1gqf.0 1gqo.6 1gs6.0 1gs9.6 1gsg.1m 1gt2.0 1gt4.1m ",
     "1gtc.1l 1gtv.0 1gu0.1l 1gu8.3g 1guq.0 1gux.3g 1gv1.0 1gvd.3g 1gvk.0 1gxs.36 1gzt.0 1h1c.2z ",
     "1h2r.0 1h34.2z 1h4j.0 1h4q.2z 1h4w.1e 1h60.0 1h68.1e 1h6i.0 1heo.4 1hfj.0 1hfk.4h 1hgq.0 1hgr.4h ",
     "1hgu.0 1hgw.4h 1hgy.0 1hj1.4 1hj4.34 1hk8.0 1hkg.3q 1hlm.0 1hm8.37 1hmy.0 1ho0.o 1hos.0 1hpc.12 ",
     "1hpz.0 1hq8.e 1hse.0 1hsi.e 1hti.0 1htr.e 1hts.1o 1hvn.0 1hvx.1o 1hvy.0 1hw0.3r 1hwp.0 1hww.3r ",
     "1hx6.0 1hxc.l 1hyt.0 1hyu.l 1hzc.0 1hzk.27 1i0n.0 1i0w.3l 1i3k.0 1i3l.3p 1i45.0 1i4g.1w 1i4y.0 ",
     "1i4z.1w 1i6a.0 1i80.2n 1i87.0 1i88.2n 1i89.0 1i8a.2n 1i8e.0 1i8f.2n 1i8u.0 1i8v.2n 1i96.0 ",
     "1i9c.1x 1iaz.0 1ib4.1x 1ibe.0 1ibk.17 1ibo.0 1ibp.17 1ibx.0 1ibz.17 1ic1.0 1ic3.17 1icp.0 ",
     "1icq.17 1icx.0 1icy.17 1id0.0 1id1.17 1id6.0 1id7.1k 1id8.17 1idh.0 1idj.17 1idl.0 1idn.17 ",
     "1idq.0 1ids.17 1idt.0 1idz.17 1ie0.0 1ie5.17 1iec.0 1iee.17 1iel.0 1ieo.17 1iet.0 1iio.2t 1il8.0 ",
     "1il9.2t 1ile.0 1im8.4a 1io8.0 1iog.4a 1ioq.0 1itc.3n 1iuu.0 1iuw.3n 1ivy.0 1iww.2k 1iyt.0 ",
     "1iz4.2k 1ize.0 1izk.2l 1izx.0 1j0g.41 1j22.0 1j28.41 1j2i.0 1j40.2 1j4r.0 1j4t.2 1j58.0 1j5c.2 ",
     "1j5z.0 1jb4.y 1jcs.0 1jfk.4g 1jhv.0 1ji7.4g 1ji8.x 1jif.0 1jih.x 1jii.0 1jik.x 1jis.0 1jit.x ",
     "1jiv.0 1jiw.x 1jjq.0 1jjr.x 1jjt.0 1jjv.x 1jk7.0 1jkg.x 1jkq.0 1jmo.2r 1jmw.0 1jmy.2r 1jo8.0 ",
     "1joa.2r 1jol.0 1jpc.4j 1jrc.0 1jrk.3s 1jtv.0 1ju8.i 1juo.3d 1jw9.0 1jwg.w 1jwq.0 1k3k.c 1k3t.0 ",
     "1k3u.c 1k53.0 1k54.c 1k5i.0 1k5s.c 1k6l.0 1k6o.2c 1k7k.0 1k7m.2c 1k88.0 1k89.2c 1k8n.0 1kao.2d ",
     "1kav.0 1kaw.2d 1kay.0 1kaz.2d 1kc7.0 1kca.2d 1kcb.0 1kcc.2d 1kce.0 1kcf.2d 1kco.0 1kcw.2d 1kd6.0 ",
     "1kdc.1a 1kdi.0 1kdj.1a 1kdl.0 1kdm.1a 1ken.0 1keo.1a 1keq.0 1ker.1a 1kex.0 1kf4.1a 1kfe.0 ",
     "1ko0.28 1kop.0 1kow.1r 1kpd.0 1kpe.1r 1kqj.0 1kqm.1r 1kre.0 1kts.24 1ktt.0 1ku8.42 1kvm.0 ",
     "1kvz.42 1kw0.r 1llm.0 1log.r 1lrj.0 1lrk.r 1lrp.0 1ls0.r 1lxg.0 1nyo.t 1o1f.0 1o1s.10 1owm.0 ",
     "1s00.3 1sg7.0 1z40.8 1zjt.0 1zk0.2m 1zkv.0 1zkw.2m 1zl6.0 1zla.2m 1zlc.43 1znj.0 1znk.43 1znu.0 ",
     "1zo0.9 1zou.0 1zow.9 1zp2.0 1zpc.3b 1zra.0 1zrk.3b 1zru.0 1zrv.3b 1zs2.0 1zs3.3b 1zso.0 1zst.3b ",
     "1ztc.0 20cg.2e 20ez.0 20hs.2j 20jv.0 20jz.2j 20lk.0 20lr.2j 20m8.0 20o0.44 20o1.2v 20o2.1c ",
     "20o4.1u 20o5.0 20og.1c 20oi.0 20ow.44 25fc.0 25fk.44 260w.1u 26dy.0 26f4.44 26fd.0 2dbk.1q ",
     "2dbo.0 2dbp.1q 2dbw.0 2dbx.1q 2dbz.0 2dc0.1q 2dc1.1i 2dk0.1q 2dk3.0 2dki.1i 2dkj.0 2dlc.1i ",
     "2dlf.0 2dlh.1q 2dli.0 2dlw.1q 2dm0.0 2dm8.2v 2dx8.0 2fpc.z 2fsb.0 2fsg.z 2fst.0 2fsw.z 2ft5.0 ",
     "2ftc.z 2ftm.0 2fto.z 2fts.p 2ftw.0 2jgg.1k 2jhq.0 2jhs.1k 2jif.0 2jio.p 2jlw.0 2jnk.p 2jue.0 ",
     "2juo.p 2jvr.0 2jvt.p 2jxj.1k 2jxm.p 2jy3.1k 2jyb.p 2jyd.1k 2jyk.p 2jze.1k 2jzi.p 2k17.0 2k1s.18 ",
     "2k3q.0 2k74.p 2k7o.0 2k80.p 2k8k.0 2k8w.p 2kbb.0 2kbk.p 2kc9.0 2kg0.p 2kid.0 2kie.p 2kkd.0 ",
     "2kke.p 2kkg.0 2kki.p 2kkj.0 2kkl.p 2kkn.0 2kkp.p 2kkt.0 2kku.p 2kl6.0 2kl7.p 2kl8.0 2kl9.p ",
     "2klg.0 2klh.p 2kna.0 2knb.p 2knf.0 2knh.p 2knp.0 2knq.p 2knx.0 2kny.p 2koq.0 2kor.p 2kov.0 ",
     "2kow.p 2kp1.0 2kp2.p 2kp3.0 2kp6.p 2kpd.0 2kpe.p 2kyu.0 2kyw.p 2l70.0 2l72.p 2l8g.3o 2lqk.0 ",
     "2lqz.3o 2lr4.0 2lr5.3o 2lrk.0 2mm8.1z 2mn3.0 2mn9.1z 2mnf.0 2mtc.15 2mtj.0 2mtk.15 2mu1.0 ",
     "2mu3.15 2mua.0 2mub.15 2mud.0 2mue.15 2muj.0 2muo.u 2mwe.0 2mxb.u 2mxc.0 2n0g.2w 2n1p.0 2n1s.2w ",
     "2n26.0 2n28.2w 2n2i.0 2n2m.2w 2n2o.0 2nbk.4b 2ncf.0 2ncw.4f 2nei.0 2nen.4f 2neo.0 2nrk.2q 2nsq.0 ",
     "2odc.13 2odj.0 2odk.13 2odo.0 2odp.13 2odr.0 2ods.13 2oe7.0 2oe8.2g 2ojp.0 2ojr.2g 2ok7.0 2olc.1 ",
     "2ong.0 2onk.1 2onu.0 2ony.1 2oo0.0 2p9t.p 2pbp.0 2pdt.p 2pfi.0 2pkw.4 2pl0.0 2pl1.4 2pls.0 ",
     "2plt.4 2plv.0 2plw.4 2plx.0 2plz.4 2pm0.0 2pm1.4 2pmb.0 2pmc.4 2pmg.0 2pmh.4 2pmi.0 2pmj.4 ",
     "2pmk.0 2pmq.4 2pmr.0 2pmv.4 2pmw.0 2pmx.4 2pmy.0 2pmz.4 2pn0.0 2pn1.4 2pn4.0 2pn5.4 2pn7.0 ",
     "2pn8.4 2pn9.0 2pnb.4 2pnc.0 2pnd.4 2pne.0 2pnf.4 2png.0 2pnh.4 2pni.0 2pnj.4 2pnk.0 2pnl.4 ",
     "2pnn.0 2pno.4 2pnp.0 2pnr.4 2pnv.0 2pnw.4 2po3.0 2po4.4 2po8.0 2po9.4 2pod.0 2poe.4 2pof.0 ",
     "2pog.4 2poq.0 2por.4 2pp8.0 2ppd.4 2ppg.0 2pph.4 2ppm.0 2ppn.4 2pq4.0 2prk.4 2prm.0 2pz4.p ",
     "2q0c.0 2q0g.p 2q38.0 2q3k.p 2q3z.0 2q41.p 2q4g.0 2q4h.p 2q4w.0 2q4x.p 2q5y.0 2q68.p 2qb2.0 ",
     "2qcm.p 2qdc.1i 2qdd.p 2qdf.0 2qds.p 2qf0.0 2qf4.p 2qfd.0 2qfk.p 2qfm.0 2qg0.p 2qg6.0 2qkg.p ",
     "2rbs.0 2rbw.p 2rcd.0 2rcg.p 2rct.0 2rcw.p 2rg7.0 2rgb.p 2riy.0 2rj4.p 2rjg.0 2rjk.p 2rjl.0 ",
     "2rk0.p 2rkc.0 2rkg.p 2rm0.0 2rm8.p 2rmi.0 2rmo.p 2rns.0 2ro0.p 2rou.0 2row.p 2roy.0 2rr4.p ",
     "2s0k.0 2s0w.p 2s1a.0 2s1c.p 2s1p.0 2s1s.p 2s21.0 2s28.p 2s3i.0 2s3j.p 2s3q.0 2s3y.p 2s4c.0 ",
     "2s4g.p 2s4p.0 2s4w.p 2s55.0 2s5c.p 2s9f.0 2s9g.p 2saz.0 2sc0.p 2sca.0 2t4w.1c 3q3k.0 3q4g.1c ",
     "3tbu.0 3tc0.1c 3ti6.0 3ti8.1c 3xya.0 3xyo.1c 43q9.0 464g.1c 46ji.0 47pc.1c 4bij.0 4bio.1c 4er4.0 ",
     "jny9.p jnya.0 jnz4.p jo1s.0 jo5c.1k joc0.0"]

def scriptRuns : Array (Nat × Nat) := readRuns scriptTable

/-- The name of the script a character belongs to. -/
def scriptOf (c : Char) : String := scriptNames.getD (runValue scriptRuns c.toNat) "Unknown"

/-- The sets of scripts that occur as script extensions, each written as script numbers
joined by dots. -/
def extensionSetTable : String :=
  String.join
    ["p 1z d 1k 18 0 q u u.32 u.15 u.1z 5 1h 4 4.1e.2u.3v.46.4h 4.3v.46 1.4.1e.2u.3v.46.4h ",
     "1.4.1e.2a.2b.37.3g.3q.3v 4.3v 4.46.4h 4.1e 3v 46 2u 3j 2a w b.w.17.19.1b.1p.1z.29.38.3l.42.45.4a ",
     "b.w.17.19.1b.1p.1z.29.38.42.45.4a b.w.y.17.19.1a.1b.1p.1x.27.29.2d.2r.38.3p.3u.41.42.45.4a ",
     "b.w.y.17.19.1a.1b.1p.1x.21.27.29.2d.2r.38.3p.3u.41.42.45.4a w.y.1o.27 b b.l.3u 1b 1b.2n 19 19.1w ",
     "38 42 17.42 45 1p 1p.2r 29 3p 47 1y 48 2o l.2o.3y 14 14.1z 1d 13 n i 2x 3i 3w 1f h.1f.3w.3x h 3x ",
     "1v 2l 2l.3e 21 3y 2s g 3z 7 3t a 20 2y b.w.17.1p w.17 b.w w.3l w.1p.29.38.42.45 w.2r ",
     "b.w.17.1p.2r.38.45.4a w.17.1p 2r u.3v 1z.2l w.17.1z f 15 49 1c d.1c.1d.1i.1q.4i d.1c.1d.1i.1q ",
     "d.1c 1i.1q 1c.1i.1q 1i 1q 4i 24 4d 8 1c.1z 3u w.y.19.1b.1o.1p.1w.1x.27.29.2k.2r.41.4a ",
     "w.y.19.1b.1o.1p.1w.1x.27.2k.2r.41.4a w.y.19.1b.1o.1w.1x.27.2k.41.4a 3e 3k w.42 1s 1s.1z.2o 3h 1n ",
     "g.1n m 40 2f 4.2u 4.46 23 s.t.23 s.23 s.22.23 25 j 4.q 30 16 32 4c 33 v 3m 3a 39 11 k 4e 22 s 1j ",
     "3c 2p 1g 3f 26 2i 2h 1t 35 31 2b 2b.37 6 1m 1l 3g 36 2z 1e 4h 34 3q 37 o 12 e 1o 3r l 27 3l 1w ",
     "2n 1x 17 2t 4a 3n 2k 41 2 y 4g x 4j 3s 3d c 2c 2d 1a 28 1r r t 10 3 2m 43 9 3b 2e 2j 44 2v 1u z ",
     "3o 2w 4b 4f 2q 2g 1"]

def extensionSets : Array (List Nat) :=
  ((extensionSetTable.splitOn " ").map fun s => (s.splitOn ".").map base36).toArray

/-- Where each run of one set of script extensions starts, with the set's number. -/
def extensionTable : String :=
  String.join
    ["0.0 1t.1 2j.0 2p.1 3f.0 4q.1 4r.0 56.1 57.0 5c.1 5z.0 60.1 6v.0 6w.1 jd.0 kg.1 kl.0 kq.2 ks.0 ",
     "lc.3 n6.4 n7.3 n9.4 na.3 o3.1 og.4 ok.0 ol.4 oo.5 oq.4 ou.0 ov.4 ow.5 p0.4 p1.0 p2.4 p3.0 p4.4 ",
     "p7.5 p8.4 p9.5 pa.4 pu.5 pv.4 rm.6 s0.4 sg.7 w3.8 w4.9 w5.a w7.9 w8.7 10w.5 10x.b 11z.5 121.b ",
     "13f.5 13h.b 13k.5 13l.c 154.5 15c.c 163.5 167.c 16d.5 16o.d 16t.0 16u.d 170.e 171.d 17f.e 17g.f ",
     "17h.d 17j.g 17k.d 18g.h 18h.d 18r.i 192.d 19c.j 19m.d 19s.i 19t.d 1ck.k 1cl.d 1ct.0 1cu.d 1ds.l ",
     "1e6.5 1e7.l 1fv.5 1fx.l 1g0.d 1hc.m 1iq.5 1j4.n 1kr.5 1kt.n 1kw.o 1m6.5 1m8.o 1mn.5 1mo.p 1ng.5 ",
     "1ni.p 1nj.5 1nk.l 1nv.5 1o0.d 1ov.5 1ow.d 1oy.5 1p4.d 1r6.0 1r7.d 1s0.q 1u9.r 1ua.s 1ub.3 1ud.q ",
     "1us.t 1ut.u 1uu.v 1v4.q 1vk.w 1vo.5 1vp.w 1vx.5 1vz.w 1w1.5 1w3.w 1wp.5 1wq.w 1wx.5 1wy.w 1wz.5 ",
     "1x2.w 1x6.5 1x8.w 1xh.5 1xj.w 1xl.5 1xn.w 1xr.5 1xz.w 1y0.5 1y4.w 1y6.5 1y7.w 1yc.5 1ye.x 1yo.w ",
     "1z3.5 1z5.y 1z8.5 1z9.y 1zf.5 1zj.y 1zl.5 1zn.y 209.5 20a.y 20h.5 20i.y 20k.5 20l.y 20n.5 20o.y ",
     "20q.5 20s.y 20t.5 20u.y 20z.5 213.y 215.5 217.y 21a.5 21d.y 21e.5 21l.y 21p.5 21q.y 21r.5 21y.z ",
     "228.y 22f.5 22p.10 22s.5 22t.10 232.5 233.10 236.5 237.10 23t.5 23u.10 241.5 242.10 244.5 245.10 ",
     "24a.5 24c.10 24m.5 24n.10 24q.5 24r.10 24u.5 24w.10 24x.5 25c.10 25g.5 25i.11 25s.10 25u.5 ",
     "261.10 268.5 269.12 26c.5 26d.12 26l.5 26n.12 26p.5 26r.12 27d.5 27e.12 27l.5 27m.12 27o.5 ",
     "27p.12 27u.5 27w.12 285.5 287.12 289.5 28b.12 28e.5 28l.12 28o.5 28s.12 28u.5 28v.12 290.5 ",
     "292.12 29k.5 29u.13 29w.5 29x.13 2a3.5 2a6.13 2a9.5 2aa.13 2ae.5 2ah.13 2aj.5 2ak.13 2al.5 ",
     "2am.13 2ao.5 2ar.13 2at.5 2aw.13 2az.5 2b2.13 2be.5 2bi.13 2bn.5 2bq.13 2bt.5 2bu.13 2by.5 ",
     "2c0.13 2c1.5 2c7.13 2c8.5 2cm.14 2d0.13 2d7.5 2dc.15 2dp.5 2dq.15 2dt.5 2du.15 2eh.5 2ei.15 ",
     "2ey.5 2f0.15 2f9.5 2fa.15 2fd.5 2fe.15 2fi.5 2fp.15 2fr.5 2fs.15 2fv.5 2fx.15 2fy.5 2g0.15 2g4.5 ",
     "2g6.15 2gg.5 2gn.15 2gw.16 2h9.5 2ha.16 2hd.5 2he.16 2i1.5 2i2.16 2ic.5 2id.16 2ii.5 2ik.16 ",
     "2it.5 2iu.16 2ix.5 2iy.16 2j2.5 2j9.16 2jb.5 2jh.16 2jj.5 2jk.16 2jo.5 2jq.17 2k0.5 2k1.16 2k4.5 ",
     "2kg.18 2kt.5 2ku.18 2kx.5 2ky.18 2md.5 2me.18 2mh.5 2mi.18 2mo.5 2ms.18 2n8.5 2na.18 2o0.5 ",
     "2o1.19 2o4.5 2o5.19 2on.5 2oq.19 2pe.5 2pf.19 2po.5 2pp.19 2pq.5 2ps.19 2pz.5 2q2.19 2q3.5 ",
     "2q7.19 2qd.5 2qe.19 2qf.5 2qg.19 2qo.5 2qu.19 2r4.5 2r6.19 2r9.5 2rl.1a 2t7.5 2tb.0 2tc.1a 2u4.5 ",
     "2v5.1b 2v7.5 2v8.1b 2v9.5 2va.1b 2vf.5 2vg.1b 2w4.5 2w5.1b 2w6.5 2w7.1b 2wu.5 2ww.1b 2x1.5 ",
     "2x2.1b 2x3.5 2x4.1b 2xb.5 2xc.1b 2xm.5 2xo.1b 2xs.5 2yo.1c 30o.5 30p.1c 31p.5 31t.1c 32w.5 ",
     "32x.1c 33x.5 33y.1c 34d.5 34e.1c 34l.0 34p.1c 34r.5 35s.1d 37k.1e 37u.1d 3a8.1f 3ba.5 3bb.1f ",
     "3bc.5 3bh.1f 3bi.5 3bk.1f 3cr.1g 3cs.1f 3cw.1h 3k0.1i 3m1.5 3m2.1i 3m6.5 3m8.1i 3mf.5 3mg.1i ",
     "3mh.5 3mi.1i 3mm.5 3mo.1i 3nt.5 3nu.1i 3ny.5 3o0.1i 3ox.5 3oy.1i 3p2.5 3p4.1i 3pb.5 3pc.1i 3pd.5 ",
     "3pe.1i 3pi.5 3pk.1i 3pz.5 3q0.1i 3rl.5 3rm.1i 3rq.5 3rs.1i 3tn.5 3tp.1i 3ul.5 3uo.1i 3ve.5 ",
     "3vk.1j 3xy.5 3y0.1j 3y6.5 3y8.1k 4g0.1l 4gt.5 4gw.1m 4iz.0 4j2.1m 4jd.5 4jk.1n 4k6.5 4kf.1n ",
     "4kg.1o 4l1.1p 4l3.5 4lc.1q 4lw.5 4m8.1r 4ml.5 4mm.1r 4mp.5 4mq.1r 4ms.5 4n4.1s 4pq.5 4ps.1s ",
     "4q2.5 4q8.1s 4qi.5 4qo.1t 4qq.1u 4qs.1t 4qt.1u 4qu.1t 4re.5 4rk.1t 4u1.5 4u8.1t 4vf.5 4vk.1k ",
     "4xi.5 4xs.1v 4yn.5 4yo.1v 4z0.5 4z4.1v 4zg.5 4zk.1v 4zl.5 4zo.1v 500.1w 50u.5 50w.1w 511.5 ",
     "51c.1x 52k.5 52o.1x 53e.5 53k.1x 53v.5 53y.1x 540.1s 54w.1y 55o.5 55q.1y 55s.1z 57j.5 57k.1z ",
     "58d.5 58f.1z 58q.5 58w.1z 596.5 59c.1z 59q.5 59s.3 5an.5 5c0.20 5e5.5 5e8.20 5fj.5 5fk.21 5hc.22 ",
     "5is.5 5j0.22 5j4.23 5ko.5 5kr.23 5l6.5 5l9.23 5lc.24 5mo.7 5mx.5 5n4.1f 5ob.5 5od.1f 5og.21 ",
     "5oo.5 5ow.25 5ox.q 5oy.25 5oz.26 5p0.q 5p1.27 5p3.28 5p4.27 5p5.28 5p6.29 5p7.q 5p8.28 5pa.q ",
     "5pc.28 5pd.27 5pe.q 5pl.2a 5pm.27 5pn.q 5pp.27 5pq.q 5pu.2b 5pv.26 5pw.2c 5px.27 5pz.w 5q0.26 ",
     "5q2.2d 5q3.5 5q8.1 5ra.4 5rf.7 5rg.1 5st.4 5sy.1 5t2.4 5t7.1 5tk.7 5tl.1 5vj.4 5vm.3 5x4.2e ",
     "5x5.3 5x6.l 5x7.3 5xc.1 64g.4 652.5 654.4 65a.5 65c.4 66e.5 66g.4 66m.5 66o.4 66w.5 66x.4 66y.5 ",
     "66z.4 670.5 671.4 672.5 673.4 67y.5 680.4 69h.5 69i.4 69x.5 69y.4 6ac.5 6ae.4 6ak.5 6al.4 6b4.5 ",
     "6b6.4 6b9.5 6ba.4 6bj.5 6bk.0 6bw.3 6by.0 6cv.2f 6cw.0 6ed.5 6ee.0 6ep.1 6eq.5 6es.0 6f3.1 6f4.0 ",
     "6fj.5 6fk.1 6fx.5 6g0.0 6gx.5 6hc.3 6i8.2g 6i9.5 6io.0 6jq.4 6jr.0 6ju.1 6jw.0 6k2.1 6k3.0 6ku.1 ",
     "6kv.0 6lc.1 6mh.0 6mk.5 6mo.0 753.5 75s.0 763.5 76o.0 7wg.2h 83k.0 8l0.5 8l2.0 8ly.5 8lz.0 ",
     "8ow.2i 8rk.1 8sg.6 8vo.5 8vt.6 8w0.1f 8x2.5 8x3.1f 8x4.5 8x9.1f 8xa.5 8xc.2j 8yw.5 8z3.2j 8z5.5 ",
     "8zj.2j 8zk.1i 907.5 90g.1i 90n.5 90o.1i 90v.5 90w.1i 913.5 914.1i 91b.5 91c.1i 91j.5 91k.1i ",
     "91r.5 91s.1i 91z.5 920.1i 927.5 928.7 934.0 94z.9 950.0 95q.5 96o.2k 97e.5 97f.2k 99w.5 9a8.2k ",
     "9g6.5 9gw.0 9h8.5 9hc.0 9hd.2l 9hf.2m 9hg.0 9hh.2k 9hk.2l 9hu.0 9hv.2m 9hw.2l 9i4.2m 9i8.0 ",
     "9i9.2k 9ii.2n 9im.1h 9io.2m 9ip.2o 9iu.0 9iv.2m 9iw.2k 9j0.2p 9j2.2k 9j4.5 9j5.2q 9lj.5 9ll.2o ",
     "9lp.2q 9ls.2o 9lt.2r 9ob.2l 9oc.2o 9od.2r 9og.5 9ol.2 9ps.5 9pt.1h 9sf.5 9sg.2k 9sw.2 9ts.2k ",
     "9us.5 9v4.2r 9vk.1h 9wf.5 9wg.2k 9xk.0 9y8.1h 9z3.0 9z4.2k a0h.0 a0w.2k a18.0 a1c.2r a2n.2k ",
     "a2o.2r a54.2k a5t.0 a63.2k a68.0 a8w.2k a9r.0 a9s.2k fcw.0 feo.2k vls.2s wi5.5 wi8.2s wjr.5 ",
     "wk0.2t wlc.2u wto.5 wu8.7 wvj.9 wvk.7 www.2v wzc.5 wzk.2w wzs.0 x0i.1 x3c.0 x3f.1 x57.5 x5c.1 ",
     "x5e.5 x5f.1 x5g.5 x5h.1 x5m.5 x6a.1 x6o.2x x7x.5 x80.2y x83.2z x86.30 x8a.5 x8g.31 xa0.5 xa8.32 ",
     "xc6.5 xce.32 xcq.5 xcw.q xdd.27 xde.q xdf.33 xdg.q xds.34 xf2.35 xf3.34 xf4.36 xg4.5 xgf.36 ",
     "xgg.1h xh9.5 xhc.37 xji.5 xjj.38 xjk.37 xju.5 xjy.37 xk0.1d xkv.5 xkw.39 xmf.5 xmo.39 xn2.5 ",
     "xn4.39 xne.5 xng.39 xnk.1d xog.3a xqb.5 xqz.3a xr4.3b xrr.5 xs1.1i xs7.5 xs9.1i xsf.5 xsh.1i ",
     "xsn.5 xsw.1i xt3.5 xt4.1i xtb.5 xtc.1 xuj.0 xuk.1 xut.4 xuu.1 xuy.0 xv0.5 xv4.1j xxc.3b xym.5 ",
     "xyo.3b xyy.5 xz4.1h 16lg.5 16ls.1h 16mf.5 16mj.1h 16nw.5 1d6o.2k 1dgu.5 1dgw.2k 1dju.5 1dkw.1 ",
     "1dl3.5 1dlf.b 1dlk.5 1dlp.c 1dmf.5 1dmg.c 1dml.5 1dmm.c 1dmn.5 1dmo.c 1dmq.5 1dmr.c 1dmt.5 ",
     "1dmu.c 1dn4.d 1dqb.5 1dqr.d 1e0u.3c 1e0w.d 1e34.5 1e36.d 1e4o.5 1e4v.d 1e4w.5 1e5s.d 1e5u.3d ",
     "1e5v.d 1e65.3d 1e66.d 1e68.3 1e6o.0 1e6y.5 1e74.3 1e7i.7 1e7k.0 1e85.2m 1e87.0 1e8j.5 1e8k.0 ",
     "1e93.5 1e94.0 1e98.5 1e9c.d 1e9h.5 1e9i.d 1ed9.5 1edb.0 1edc.5 1edd.0 1ee9.1 1eez.0 1ef5.1 ",
     "1efv.0 1eg1.2l 1eg6.2r 1egg.2o 1egh.2r 1ehq.2o 1ehs.1h 1ein.5 1eiq.1h 1eiw.5 1eiy.1h 1ej4.5 ",
     "1ej6.1h 1ejc.5 1eje.1h 1ejh.5 1ejk.0 1ejr.5 1ejs.0 1ejz.5 1ek9.0 1eke.5 1ekg.3e 1eks.5 1ekt.3e ",
     "1elj.5 1elk.3e 1em3.5 1em4.3e 1em6.5 1em7.3e 1emm.5 1emo.3e 1en2.5 1eo0.3e 1erf.5 1erk.3f ",
     "1erm.3g 1ern.5 1err.3h 1et0.5 1et3.3g 1etc.4 1evj.5 1evk.0 1evx.5 1ew0.4 1ew1.5 1exc.0 1eyl.3 ",
     "1eym.5 1f28.3i 1f31.5 1f34.3j 1f4h.5 1f4w.3k 1f5o.5 1f5s.3l 1f6s.5 1f71.3l 1f74.3m 1f7v.5 ",
     "1f80.3n 1f97.5 1f9c.3o 1fa6.5 1fa7.3o 1fa8.3p 1fb8.5 1fbc.3p 1fbq.5 1fcw.3q 1ff4.3r 1fgg.3s ",
     "1fha.5 1fhc.3s 1fhm.5 1fhs.3t 1fis.5 1fiw.3t 1fjw.5 1fk0.3u 1fl4.5 1flc.3v 1fms.5 1fn3.3v ",
     "1fn4.3w 1fnf.5 1fng.3w 1fnv.5 1fnw.3w 1fo3.5 1fo4.3w 1fo6.5 1fo7.3w 1foi.5 1foj.3w 1foy.5 ",
     "1foz.3w 1fp6.5 1fp7.3w 1fp9.5 1fr4.3x 1fzr.5 1g00.3x 1g0m.5 1g0w.3x 1g14.5 1g1s.1 1g1y.5 1g1z.1 ",
     "1g35.5 1g36.1 1g3f.5 1g5c.3y 1g5i.5 1g5k.3y 1g5l.5 1g5m.3y 1g6u.5 1g6v.3y 1g6x.5 1g70.3y 1g71.5 ",
     "1g73.3y 1g74.3z 1g7q.5 1g7r.3z 1g80.40 1g8w.41 1g9r.5 1g9z.41 1ga8.5 1gbk.42 1gc3.5 1gc4.42 ",
     "1gc6.5 1gcb.42 1gcg.43 1gd8.5 1gdb.43 1gdc.44 1ge2.5 1ge7.44 1ge8.5 1gg0.45 1ggw.46 1ghk.5 ",
     "1gho.46 1gi8.5 1gia.46 1gjk.47 1gjo.5 1gjp.47 1gjr.5 1gjw.47 1gk4.5 1gk5.47 1gk8.5 1gk9.47 ",
     "1gl2.5 1gl4.47 1gl7.5 1glb.47 1gll.5 1gls.47 1gm1.5 1gm8.48 1gn4.49 1go0.5 1gow.4a 1gpz.5 ",
     "1gq3.4a 1gqa.4b 1gqb.4a 1gqf.5 1gqo.4c 1gs6.5 1gs9.4c 1gsg.4d 1gt2.5 1gt4.4d 1gtc.4e 1gtv.5 ",
     "1gu0.4e 1gu8.4f 1guq.5 1gux.4f 1gv1.5 1gvd.4f 1gvk.5 1gxs.4g 1gzt.5 1h1c.4h 1h2r.5 1h34.4h ",
     "1h4j.5 1h4q.4h 1h4w.4i 1h60.5 1h68.4i 1h6i.5 1heo.d 1hfj.5 1hfk.4j 1hgq.5 1hgr.4j 1hgu.5 1hgw.4j ",
     "1hgy.5 1hj1.d 1hj4.4k 1hk8.5 1hkg.4l 1hlm.5 1hm8.4m 1hmy.5 1ho0.4n 1hos.5 1hpc.4o 1hpz.5 1hq8.4p ",
     "1hse.5 1hsi.4p 1hti.5 1htr.4p 1hts.4q 1hvn.5 1hvx.4q 1hvy.5 1hw0.4r 1hwp.5 1hww.4r 1hx6.5 ",
     "1hxc.4s 1hyt.5 1hyu.4s 1hzc.5 1hzk.4t 1i0n.5 1i0w.4u 1i3k.5 1i3l.19 1i45.5 1i4g.4v 1i4y.5 ",
     "1i4z.4v 1i6a.5 1i80.4w 1i87.5 1i88.4w 1i89.5 1i8a.4w 1i8e.5 1i8f.4w 1i8u.5 1i8v.4w 1i96.5 ",
     "1i9c.4x 1iaz.5 1ib4.4x 1ibe.5 1ibk.4y 1ibl.14 1ibm.4y 1ibn.14 1ibo.5 1ibp.4y 1ibx.5 1ibz.4y ",
     "1ic1.5 1ic3.4y 1icp.5 1icq.4y 1icx.5 1icy.4y 1id0.5 1id1.4y 1id6.5 1id7.14 1id9.4y 1idh.5 ",
     "1idj.4y 1idl.5 1idn.4y 1idq.5 1ids.4y 1idt.5 1idz.4y 1ie0.5 1ie5.4y 1iec.5 1iee.4y 1iel.5 ",
     "1ieo.4y 1iet.5 1iio.4z 1il8.5 1il9.4z 1ile.5 1im8.50 1io8.5 1iog.50 1ioq.5 1itc.51 1iuu.5 ",
     "1iuw.51 1ivy.5 1iww.52 1iyt.5 1iz4.52 1ize.5 1izk.1t 1izx.5 1j0g.53 1j22.5 1j28.53 1j2i.5 ",
     "1j40.54 1j4r.5 1j4t.54 1j58.5 1j5c.54 1j5z.5 1jb4.55 1jcs.5 1jfk.56 1jhv.5 1ji7.56 1ji8.57 ",
     "1jif.5 1jih.57 1jii.5 1jik.57 1jis.5 1jit.57 1jiv.5 1jiw.57 1jjq.5 1jjr.57 1jjt.5 1jjv.57 1jk7.5 ",
     "1jkg.57 1jkq.5 1jmo.2d 1jmw.5 1jmy.2d 1jo8.5 1joa.2d 1jol.5 1jpc.58 1jrc.5 1jrk.59 1jtv.5 ",
     "1ju8.1k 1juo.5a 1jw9.5 1jwg.q 1jwq.5 1k3k.5b 1k3t.5 1k3u.5b 1k53.5 1k54.5b 1k5i.5 1k5s.5b 1k6l.5 ",
     "1k6o.5c 1k7k.5 1k7m.5c 1k88.5 1k89.5c 1k8n.5 1kao.5d 1kav.5 1kaw.5d 1kay.5 1kaz.5d 1kc7.5 ",
     "1kca.5d 1kcb.5 1kcc.5d 1kce.5 1kcf.5d 1kco.5 1kcw.5d 1kd6.5 1kdc.5e 1kdi.5 1kdj.5e 1kdl.5 ",
     "1kdm.5e 1ken.5 1keo.5e 1keq.5 1ker.5e 1kex.5 1kf4.5e 1kfe.5 1ko0.5f 1kop.5 1kow.5g 1kpd.5 ",
     "1kpe.5g 1kqj.5 1kqm.5g 1kre.5 1kts.2t 1ktt.5 1ku8.13 1kuo.14 1kuq.13 1kur.14 1kus.13 1kvm.5 ",
     "1kvz.13 1kw0.5h 1llm.5 1log.5h 1lrj.5 1lrk.5h 1lrp.5 1ls0.5h 1lxg.5 1nyo.5i 1o1f.5 1o1s.5j ",
     "1owm.5 1s00.5k 1sg7.5 1z40.2v 1zjt.5 1zk0.5l 1zkv.5 1zkw.5l 1zl6.5 1zla.5l 1zlc.5m 1znj.5 ",
     "1znk.5m 1znu.5 1zo0.5n 1zou.5 1zow.5n 1zp2.5 1zpc.5o 1zra.5 1zrk.5o 1zru.5 1zrv.5o 1zs2.5 ",
     "1zs3.5o 1zso.5 1zst.5o 1ztc.5 20cg.5p 20ez.5 20hs.5q 20jv.5 20jz.5q 20lk.5 20lr.5q 20m8.5 ",
     "20o0.5r 20o1.5s 20o2.2k 20o4.5t 20o5.5 20og.2k 20oi.5 20ow.5r 25fc.5 25fk.5r 260w.5t 26dy.5 ",
     "26f4.5r 26fd.5 2dbk.2r 2dbo.5 2dbp.2r 2dbw.5 2dbx.2r 2dbz.5 2dc0.2r 2dc1.2q 2dk0.2r 2dk3.5 ",
     "2dki.2q 2dkj.5 2dlc.2q 2dlf.5 2dlh.2r 2dli.5 2dlw.2r 2dm0.5 2dm8.5s 2dx8.5 2fpc.5u 2fsb.5 ",
     "2fsg.5u 2fst.5 2fsw.5u 2ft5.5 2ftc.5u 2ftm.5 2fto.5u 2ftw.5 2jgg.3 2jhq.5 2jhs.3 2jif.5 2jio.0 ",
     "2jlw.5 2jnk.0 2jue.5 2juo.0 2jvr.5 2jvt.0 2jxj.3 2jxm.0 2jy3.3 2jyb.0 2jyd.3 2jyk.0 2jze.3 ",
     "2jzi.0 2k17.5 2k1s.4 2k3q.5 2k74.0 2k7o.5 2k80.0 2k8k.5 2k8w.0 2kbb.5 2kbk.2k 2kc2.0 2kc9.5 ",
     "2kg0.0 2kid.5 2kie.0 2kkd.5 2kke.0 2kkg.5 2kki.0 2kkj.5 2kkl.0 2kkn.5 2kkp.0 2kkt.5 2kku.0 ",
     "2kl6.5 2kl7.0 2kl8.5 2kl9.0 2klg.5 2klh.0 2kna.5 2knb.0 2knf.5 2knh.0 2knp.5 2knq.0 2knx.5 ",
     "2kny.0 2koq.5 2kor.0 2kov.5 2kow.0 2kp1.5 2kp2.0 2kp3.5 2kp6.0 2kpd.5 2kpe.0 2kyu.5 2kyw.0 ",
     "2l70.5 2l72.0 2l8g.5v 2lqk.5 2lqz.5v 2lr4.5 2lr5.5v 2lrk.5 2mm8.1 2mn3.5 2mn9.1 2mnf.5 2mtc.2i ",
     "2mtj.5 2mtk.2i 2mu1.5 2mu3.2i 2mua.5 2mub.2i 2mud.5 2mue.2i 2muj.5 2muo.7 2mwe.5 2mxb.7 2mxc.5 ",
     "2n0g.5w 2n1p.5 2n1s.5w 2n26.5 2n28.5w 2n2i.5 2n2m.5w 2n2o.5 2nbk.5x 2ncf.5 2ncw.5y 2nei.5 ",
     "2nen.5y 2neo.5 2nrk.5z 2nsq.5 2odc.1i 2odj.5 2odk.1i 2odo.5 2odp.1i 2odr.5 2ods.1i 2oe7.5 ",
     "2oe8.60 2ojp.5 2ojr.60 2ok7.5 2olc.61 2ong.5 2onk.61 2onu.5 2ony.61 2oo0.5 2p9t.0 2pbp.5 2pdt.0 ",
     "2pfi.5 2pkw.d 2pl0.5 2pl1.d 2pls.5 2plt.d 2plv.5 2plw.d 2plx.5 2plz.d 2pm0.5 2pm1.d 2pmb.5 ",
     "2pmc.d 2pmg.5 2pmh.d 2pmi.5 2pmj.d 2pmk.5 2pmq.d 2pmr.5 2pmv.d 2pmw.5 2pmx.d 2pmy.5 2pmz.d ",
     "2pn0.5 2pn1.d 2pn4.5 2pn5.d 2pn7.5 2pn8.d 2pn9.5 2pnb.d 2pnc.5 2pnd.d 2pne.5 2pnf.d 2png.5 ",
     "2pnh.d 2pni.5 2pnj.d 2pnk.5 2pnl.d 2pnn.5 2pno.d 2pnp.5 2pnr.d 2pnv.5 2pnw.d 2po3.5 2po4.d ",
     "2po8.5 2po9.d 2pod.5 2poe.d 2pof.5 2pog.d 2poq.5 2por.d 2pp8.5 2ppd.d 2ppg.5 2pph.d 2ppm.5 ",
     "2ppn.d 2pq4.5 2prk.d 2prm.5 2pz4.0 2q0c.5 2q0g.0 2q38.5 2q3k.0 2q3z.5 2q41.0 2q4g.5 2q4h.0 ",
     "2q4w.5 2q4x.0 2q5y.5 2q68.0 2qb2.5 2qcm.0 2qdc.2q 2qdd.0 2qdf.5 2qds.0 2qf0.5 2qf4.0 2qfd.5 ",
     "2qfk.2k 2qfm.5 2qg0.0 2qg6.5 2qkg.0 2rbs.5 2rbw.0 2rcd.5 2rcg.0 2rct.5 2rcw.0 2rg7.5 2rgb.0 ",
     "2riy.5 2rj4.0 2rjg.5 2rjk.0 2rjl.5 2rk0.0 2rkc.5 2rkg.0 2rm0.5 2rm8.0 2rmi.5 2rmo.0 2rns.5 ",
     "2ro0.0 2rou.5 2row.0 2roy.5 2rr4.0 2s0k.5 2s0w.0 2s1a.5 2s1c.0 2s1p.5 2s1s.0 2s21.5 2s28.0 ",
     "2s3i.5 2s3j.0 2s3q.5 2s3y.0 2s4c.5 2s4g.0 2s4p.5 2s4w.0 2s55.5 2s5c.0 2s9f.5 2s9g.0 2saz.5 ",
     "2sc0.0 2sca.5 2t4w.2k 3q3k.5 3q4g.2k 3tbu.5 3tc0.2k 3ti6.5 3ti8.2k 3xya.5 3xyo.2k 43q9.5 464g.2k ",
     "46ji.5 47pc.2k 4bij.5 4bio.2k 4er4.5 jny9.0 jnya.5 jnz4.0 jo1s.5 jo5c.3 joc0.5"]

def extensionRuns : Array (Nat × Nat) := readRuns extensionTable

/-- The names of the scripts a character is used with. -/
def scriptExtensionsOf (c : Char) : List String :=
  (extensionSets.getD (runValue extensionRuns c.toNat) []).map fun i => scriptNames.getD i "Unknown"

/-- Each loose alias of a script with the script's name, written `alias=Name`. -/
def scriptAliasTable : String :=
  String.join
    ["adlam=Adlam adlm=Adlam aghb=Caucasian_Albanian ahom=Ahom ",
     "anatolianhieroglyphs=Anatolian_Hieroglyphs arab=Arabic arabic=Arabic armenian=Armenian ",
     "armi=Imperial_Aramaic armn=Armenian avestan=Avestan avst=Avestan bali=Balinese balinese=Balinese ",
     "bamu=Bamum bamum=Bamum bass=Bassa_Vah bassavah=Bassa_Vah batak=Batak batk=Batak beng=Bengali ",
     "bengali=Bengali bhaiksuki=Bhaiksuki bhks=Bhaiksuki bopo=Bopomofo bopomofo=Bopomofo brah=Brahmi ",
     "brahmi=Brahmi brai=Braille braille=Braille bugi=Buginese buginese=Buginese buhd=Buhid ",
     "buhid=Buhid cakm=Chakma canadianaboriginal=Canadian_Aboriginal cans=Canadian_Aboriginal ",
     "cari=Carian carian=Carian caucasianalbanian=Caucasian_Albanian chakma=Chakma cham=Cham ",
     "cher=Cherokee cherokee=Cherokee chorasmian=Chorasmian chrs=Chorasmian common=Common copt=Coptic ",
     "coptic=Coptic cpmn=Cypro_Minoan cprt=Cypriot cuneiform=Cuneiform cypriot=Cypriot ",
     "cyprominoan=Cypro_Minoan cyrillic=Cyrillic cyrl=Cyrillic deseret=Deseret deva=Devanagari ",
     "devanagari=Devanagari diak=Dives_Akuru divesakuru=Dives_Akuru dogr=Dogra dogra=Dogra ",
     "dsrt=Deseret dupl=Duployan duployan=Duployan egyp=Egyptian_Hieroglyphs ",
     "egyptianhieroglyphs=Egyptian_Hieroglyphs elba=Elbasan elbasan=Elbasan elym=Elymaic ",
     "elymaic=Elymaic ethi=Ethiopic ethiopic=Ethiopic geor=Georgian georgian=Georgian glag=Glagolitic ",
     "glagolitic=Glagolitic gong=Gunjala_Gondi gonm=Masaram_Gondi goth=Gothic gothic=Gothic ",
     "gran=Grantha grantha=Grantha greek=Greek grek=Greek gujarati=Gujarati gujr=Gujarati ",
     "gunjalagondi=Gunjala_Gondi gurmukhi=Gurmukhi guru=Gurmukhi han=Han hang=Hangul hangul=Hangul ",
     "hani=Han hanifirohingya=Hanifi_Rohingya hano=Hanunoo hanunoo=Hanunoo hatr=Hatran hatran=Hatran ",
     "hebr=Hebrew hebrew=Hebrew hira=Hiragana hiragana=Hiragana hluw=Anatolian_Hieroglyphs ",
     "hmng=Pahawh_Hmong hmnp=Nyiakeng_Puachue_Hmong hung=Old_Hungarian ",
     "imperialaramaic=Imperial_Aramaic inherited=Inherited inscriptionalpahlavi=Inscriptional_Pahlavi ",
     "inscriptionalparthian=Inscriptional_Parthian ital=Old_Italic java=Javanese javanese=Javanese ",
     "kaithi=Kaithi kali=Kayah_Li kana=Katakana kannada=Kannada katakana=Katakana kawi=Kawi ",
     "kayahli=Kayah_Li khar=Kharoshthi kharoshthi=Kharoshthi khitansmallscript=Khitan_Small_Script ",
     "khmer=Khmer khmr=Khmer khoj=Khojki khojki=Khojki khudawadi=Khudawadi kits=Khitan_Small_Script ",
     "knda=Kannada kthi=Kaithi lana=Tai_Tham lao=Lao laoo=Lao latin=Latin latn=Latin lepc=Lepcha ",
     "lepcha=Lepcha limb=Limbu limbu=Limbu lina=Linear_A linb=Linear_B lineara=Linear_A ",
     "linearb=Linear_B lisu=Lisu lyci=Lycian lycian=Lycian lydi=Lydian lydian=Lydian mahajani=Mahajani ",
     "mahj=Mahajani maka=Makasar makasar=Makasar malayalam=Malayalam mand=Mandaic mandaic=Mandaic ",
     "mani=Manichaean manichaean=Manichaean marc=Marchen marchen=Marchen masaramgondi=Masaram_Gondi ",
     "medefaidrin=Medefaidrin medf=Medefaidrin meeteimayek=Meetei_Mayek mend=Mende_Kikakui ",
     "mendekikakui=Mende_Kikakui merc=Meroitic_Cursive mero=Meroitic_Hieroglyphs ",
     "meroiticcursive=Meroitic_Cursive meroitichieroglyphs=Meroitic_Hieroglyphs miao=Miao ",
     "mlym=Malayalam modi=Modi mong=Mongolian mongolian=Mongolian mro=Mro mroo=Mro mtei=Meetei_Mayek ",
     "mult=Multani multani=Multani myanmar=Myanmar mymr=Myanmar nabataean=Nabataean nagm=Nag_Mundari ",
     "nagmundari=Nag_Mundari nand=Nandinagari nandinagari=Nandinagari narb=Old_North_Arabian ",
     "nbat=Nabataean newa=Newa newtailue=New_Tai_Lue nko=Nko nkoo=Nko nshu=Nushu nushu=Nushu ",
     "nyiakengpuachuehmong=Nyiakeng_Puachue_Hmong ogam=Ogham ogham=Ogham olchiki=Ol_Chiki ",
     "olck=Ol_Chiki oldhungarian=Old_Hungarian olditalic=Old_Italic oldnortharabian=Old_North_Arabian ",
     "oldpermic=Old_Permic oldpersian=Old_Persian oldsogdian=Old_Sogdian ",
     "oldsoutharabian=Old_South_Arabian oldturkic=Old_Turkic olduyghur=Old_Uyghur oriya=Oriya ",
     "orkh=Old_Turkic orya=Oriya osage=Osage osge=Osage osma=Osmanya osmanya=Osmanya ougr=Old_Uyghur ",
     "pahawhhmong=Pahawh_Hmong palm=Palmyrene palmyrene=Palmyrene pauc=Pau_Cin_Hau ",
     "paucinhau=Pau_Cin_Hau perm=Old_Permic phag=Phags_Pa phagspa=Phags_Pa phli=Inscriptional_Pahlavi ",
     "phlp=Psalter_Pahlavi phnx=Phoenician phoenician=Phoenician plrd=Miao prti=Inscriptional_Parthian ",
     "psalterpahlavi=Psalter_Pahlavi qaac=Coptic qaai=Inherited rejang=Rejang rjng=Rejang ",
     "rohg=Hanifi_Rohingya runic=Runic runr=Runic samaritan=Samaritan samr=Samaritan ",
     "sarb=Old_South_Arabian saur=Saurashtra saurashtra=Saurashtra sgnw=SignWriting sharada=Sharada ",
     "shavian=Shavian shaw=Shavian shrd=Sharada sidd=Siddham siddham=Siddham signwriting=SignWriting ",
     "sind=Khudawadi sinh=Sinhala sinhala=Sinhala sogd=Sogdian sogdian=Sogdian sogo=Old_Sogdian ",
     "sora=Sora_Sompeng sorasompeng=Sora_Sompeng soyo=Soyombo soyombo=Soyombo sund=Sundanese ",
     "sundanese=Sundanese sylo=Syloti_Nagri sylotinagri=Syloti_Nagri syrc=Syriac syriac=Syriac ",
     "tagalog=Tagalog tagb=Tagbanwa tagbanwa=Tagbanwa taile=Tai_Le taitham=Tai_Tham taiviet=Tai_Viet ",
     "takr=Takri takri=Takri tale=Tai_Le talu=New_Tai_Lue tamil=Tamil taml=Tamil tang=Tangut ",
     "tangsa=Tangsa tangut=Tangut tavt=Tai_Viet telu=Telugu telugu=Telugu tfng=Tifinagh tglg=Tagalog ",
     "thaa=Thaana thaana=Thaana thai=Thai tibetan=Tibetan tibt=Tibetan tifinagh=Tifinagh tirh=Tirhuta ",
     "tirhuta=Tirhuta tnsa=Tangsa toto=Toto ugar=Ugaritic ugaritic=Ugaritic unknown=Unknown vai=Vai ",
     "vaii=Vai vith=Vithkuqi vithkuqi=Vithkuqi wancho=Wancho wara=Warang_Citi warangciti=Warang_Citi ",
     "wcho=Wancho xpeo=Old_Persian xsux=Cuneiform yezi=Yezidi yezidi=Yezidi yi=Yi yiii=Yi ",
     "zanabazarsquare=Zanabazar_Square zanb=Zanabazar_Square zinh=Inherited zyyy=Common zzzz=Unknown"]

/-- The script a loose alias names. -/
def scriptAliases : List (String × String) :=
  (scriptAliasTable.splitOn " ").filterMap fun entry =>
    match entry.splitOn "=" with
    | [a, n] => some (a, n)
    | _ => none

end Covenant.Text.Unicode
